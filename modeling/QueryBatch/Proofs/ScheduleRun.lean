import Mathlib.Data.List.Sort
import QueryBatch.Execution.Timing
import QueryBatch.Proofs.Agreement
import QueryBatch.Proofs.TaskHistory

/-! # A schedule is a run of its tasks

A schedule says when each call of a batch starts and ends. Taken in the order of time, these
moments are turns of the tasks, each of them on time: whenever the next call needs the permit of an
earlier one, the call that ends first is ended at that moment, and those that are left at last are
ended one by one.

* `Race.first_eq_some`, `Call.settle_eq_some`: what ends a call, and when.
* `Planned`: a call that has started, and that will end in a known way. `Tasks.Follows`: a state in
  the course of a schedule.
* `Schedule.exists_timedRun`: **a schedule is a run on time** after which all tasks are over.
-/

namespace QueryBatch

open Outcome

/-! ### How a call ends -/

theorem Race.first_eq_some {α : Type} {l : List (Option Nat × α)} {moment : Nat} {a : α}
    (h : first l = some (moment, a)) : (some moment, a) ∈ l := by
  induction l with
  | nil => cases h
  | cons p r ih =>
    obtain ⟨_ | t, b⟩ := p
    · exact List.mem_cons_of_mem _ (ih h)
    · rw [first] at h
      cases hr : first r with
      | none =>
        rw [hr] at h
        cases h
        exact List.mem_cons_self
      | some q =>
        obtain ⟨u, c⟩ := q
        simp only [hr] at h
        split at h
        · cases h
          exact List.mem_cons_of_mem _ (ih hr)
        · cases h
          exact List.mem_cons_self

theorem Race.exists_first_eq_some {α : Type} {l : List (Option Nat × α)}
    (h : ∃ p ∈ l, p.1.isSome = true) : ∃ moment a, first l = some (moment, a) := by
  induction l with
  | nil => exact absurd h.choose_spec.1 List.not_mem_nil
  | cons p r ih =>
    obtain ⟨_ | t, a⟩ := p
    · obtain ⟨q, hq, hsome⟩ := h
      rcases List.mem_cons.mp hq with rfl | hq
      · cases hsome
      · exact ih ⟨q, hq, hsome⟩
    · rw [first]
      split
      · exact ⟨_, _, rfl⟩
      · split
        · exact ⟨_, _, rfl⟩
        · exact ⟨_, _, rfl⟩

theorem Race.first_le {α : Type} {l : List (Option Nat × α)} {moment t : Nat} {a b : α}
    (h : first l = some (moment, a)) (hb : (some t, b) ∈ l) : moment ≤ t := by
  induction l generalizing moment a with
  | nil => cases h
  | cons p r ih =>
    obtain ⟨_ | u, c⟩ := p
    · exact ih h ((List.mem_cons.mp hb).resolve_left nofun)
    · rw [first] at h
      rcases List.mem_cons.mp hb with hb | hb
      · cases hb
        split at h
        · cases h
          exact le_rfl
        · split at h
          · cases h
            omega
          · cases h
            exact le_rfl
      · obtain ⟨v, d, hr⟩ := exists_first_eq_some ⟨_, hb, rfl⟩
        have hv : v ≤ t := ih hr hb
        simp only [hr] at h
        split at h
        · cases h
          exact hv
        · cases h
          omega

namespace Due

variable {timeout cancelAt : Option Nat} {reply : Reply} {start moment : Nat} {ending : Ending}

theorem le (h : Due timeout cancelAt reply start ending moment) : start ≤ moment := by
  cases h with
  | answered | expired => exact Nat.le_add_right _ _
  | cancelled => exact Nat.le_max_left _ _

theorem mem_race (h : Due timeout cancelAt reply start ending moment) :
    (some moment, ending.outcome timeout) ∈ [
      (Race.after start reply.delay, reply.outcome),
      (Race.after start timeout, timedOut timeout),
      (Race.noEarlier start cancelAt, .error .cancelled)] := by
  cases h with
  | answered h => simp [Race.after, Ending.outcome, h]
  | expired h => simp [Race.after, Ending.outcome, h]
  | cancelled h => simp [Race.noEarlier, Ending.outcome, h]

theorem mayEnd {limits : ExecutionLimits} {replies : Nat → Store} {place : Nat}
    {statement : Statement} {isCancelled asked : Bool}
    (h : Due limits.timeout cancelAt (replies place statement) start ending moment)
    (ha : ∀ outcome, ending = .answered outcome → asked = true)
    (hc : ending = .cancelled → isCancelled = true) :
    (Environment.ofReplies replies cancelAt).MayEnd limits isCancelled place statement asked
      ending := by
  cases h with
  | answered h => exact .answered (ha _ rfl) ⟨by rw [h]; rfl, rfl⟩
  | expired h => exact .expired (by rw [h]; rfl)
  | cancelled => exact .cancelled (hc rfl)

end Due

/-- **What ends a call, and when**: it ends after its start, at the first moment at which it is
due. -/
theorem Call.settle_eq_some {timeout cancelAt : Option Nat} {reply : Reply} {start : Nat}
    {call : Call} (h : settle timeout cancelAt start reply = some call) :
    call.start = start ∧ start ≤ call.finish ∧ call.IsPrompt timeout cancelAt reply := by
  obtain ⟨⟨moment, outcome⟩, hfirst, rfl⟩ := Option.map_eq_some_iff.mp h
  have hdue : ∃ ending, Due timeout cancelAt reply start ending moment ∧
      outcome = ending.outcome timeout := by
    have hmem := Race.first_eq_some hfirst
    simp only [List.mem_cons, Prod.mk.injEq, List.not_mem_nil, or_false] at hmem
    rcases hmem with ⟨hm, rfl⟩ | ⟨hm, rfl⟩ | ⟨hm, rfl⟩
    · obtain ⟨delay, hd, rfl⟩ := Option.map_eq_some_iff.mp hm.symm
      exact ⟨_, .answered hd, rfl⟩
    · obtain ⟨allowed, ht, rfl⟩ := Option.map_eq_some_iff.mp hm.symm
      exact ⟨_, .expired ht, rfl⟩
    · obtain ⟨moment, hc, rfl⟩ := Option.map_eq_some_iff.mp hm.symm
      exact ⟨_, .cancelled hc, rfl⟩
  obtain ⟨ending, hdue, ho⟩ := hdue
  exact ⟨rfl, hdue.le, ⟨ending, hdue, ho⟩, fun _ _ hm => Race.first_le hfirst hm.mem_race⟩

/-! ### Runs -/

namespace Tasks

variable {limits : ExecutionLimits} {env : Environment} {replies : Nat → Store}
  {cancelAt : Option Nat} {s s' s'' : Tasks} {turns : List Turn}

theorem Run.append {turns' : List Turn} (h : Run limits env s turns s')
    (h' : Run limits env s' turns' s'') : Run limits env s (turns ++ turns') s'' := by
  induction h' with
  | nil => rwa [List.append_nil]
  | snoc _ hs ih =>
    rw [← List.append_assoc]
    exact ih.snoc hs

theorem Step.run {turn : Turn} (h : Step limits env s turn s') : Run limits env s [turn] s' :=
  List.nil_append [turn] ▸ Run.nil.snoc h

theorem Run.cons {turn : Turn} (h : Step limits env s turn s')
    (h' : Run limits env s' turns s'') : Run limits env s (turn :: turns) s'' :=
  h.run.append h'

theorem TimedRun.append {turns' : List Turn} (h : TimedRun limits replies cancelAt s turns s')
    (h' : TimedRun limits replies cancelAt s' turns' s'') :
    TimedRun limits replies cancelAt s (turns ++ turns') s'' := by
  induction h' with
  | nil => rwa [List.append_nil]
  | snoc _ hs ht ih =>
    rw [← List.append_assoc]
    exact ih.snoc hs ht

theorem Step.timedRun {turn : Turn} (h : Step limits (.ofReplies replies cancelAt) s turn s')
    (ht : s.OnTime limits replies cancelAt turn) : TimedRun limits replies cancelAt s [turn] s' :=
  List.nil_append [turn] ▸ TimedRun.nil.snoc h ht

theorem TimedRun.run (h : TimedRun limits replies cancelAt s turns s') :
    Run limits (.ofReplies replies cancelAt) s turns s' := by
  induction h with
  | nil => exact .nil
  | snoc _ hs _ ih => exact ih.snoc hs

theorem Until.mono {moment moment' : Nat} (h : s.Until limits replies cancelAt moment)
    (hle : moment' ≤ moment) : s.Until limits replies cancelAt moment' where
  due place statement start asked ht ending m hm :=
    hle.trans (h.due place statement start asked ht ending m hm)
  busy hlt := h.busy (hlt.trans_le hle)

end Tasks

/-! ### States in the course of a schedule -/

theorem Permits.insertMoment_eq (t : Nat) (l : List Nat) :
    insertMoment t l = l.orderedInsert (· ≤ ·) t := by
  induction l with
  | nil => rfl
  | cons u r ih => rw [insertMoment, List.orderedInsert_cons, ih]

/-- The task of a settled query when it is over. -/
def Settled.task (r : Settled) : Task := ⟨r.call.map Prod.fst, .settled r.call⟩

/-- **A planned call**: one that has started and has not yet ended. -/
structure Planned where
  place : Nat
  statement : Statement
  call : Call

namespace Planned

abbrev finish (p : Planned) : Nat := p.call.finish

/-- The task while the call is running. -/
def task (p : Planned) : Task := ⟨some p.statement, .running p.call.start true⟩

/-- The task when the call has ended. -/
def ended (p : Planned) : Task := ⟨some p.statement, .settled (some (p.statement, p.call))⟩

/-- One call ends no later than another. -/
def Precedes (p q : Planned) : Prop := p.finish ≤ q.finish

instance : DecidableRel Precedes := fun p q => inferInstanceAs (Decidable (p.finish ≤ q.finish))

instance : Std.Total Precedes := ⟨fun p q => Nat.le_total p.finish q.finish⟩

instance : IsTrans Planned Precedes := ⟨fun _ _ _ => Nat.le_trans⟩

/-- Puts a call in the order in which the calls end. -/
def insert (p : Planned) (l : List Planned) : List Planned := l.orderedInsert Precedes p

theorem map_finish_insert (p : Planned) (l : List Planned) :
    (insert p l).map finish = Permits.insertMoment p.finish (l.map finish) := by
  rw [Permits.insertMoment_eq]
  exact List.map_orderedInsert Precedes (· ≤ ·) finish l p (fun _ _ => Iff.rfl) fun _ _ => Iff.rfl

end Planned

namespace Tasks

variable {limits : ExecutionLimits} {replies : Nat → Store} {cancelAt : Option Nat} {s s' : Tasks}
  {done : List Settled} {rest : List (String × Compiled)} {planned : List Planned} {p : Planned}

/-- **A state in the course of a schedule**: `done` are the queries that are over or have started,
`rest` the others, and the calls of those that have started are `planned`. -/
structure Follows (limits : ExecutionLimits) (replies : Nat → Store) (cancelAt : Option Nat)
    (s : Tasks) (done : List Settled) (rest : List (String × Compiled)) (planned : List Planned) :
    Prop where
  length : s.tasks.length = done.length + rest.length
  waiting : ∀ i c, rest[i]? = some c →
    s.tasks[done.length + i]? = some ⟨c.2.statement, .waiting⟩
  ended : ∀ i r, done[i]? = some r → s.tasks[i]? = some r.task ∨
    ∃ p ∈ planned, p.place = i ∧ p.ended = r.task
  running : ∀ p ∈ planned, s.tasks[p.place]? = some p.task ∧ p.place < done.length ∧
    p.call.IsPrompt limits.timeout cancelAt (replies p.place p.statement)
  nodup : (planned.map Planned.place).Nodup
  sorted : planned.Pairwise Planned.Precedes
  later : ∀ p ∈ planned, s.clock ≤ p.finish

theorem Follows.task_cases {i : Nat} {t : Task}
    (h : Follows limits replies cancelAt s done rest planned) (ht : s.tasks[i]? = some t) :
    (∃ r : Settled, t = r.task) ∨ (∃ p ∈ planned, p.place = i ∧ t = p.task) ∨
      ∃ c ∈ rest, t = ⟨c.2.statement, .waiting⟩ := by
  obtain ⟨hi, -⟩ := List.getElem?_eq_some_iff.mp ht
  rcases Nat.lt_or_ge i done.length with hlt | hge
  · rcases h.ended i _ (List.getElem?_eq_getElem hlt) with hr | ⟨p, hp, hplace, -⟩
    · exact .inl ⟨_, Option.some.inj (ht.symm.trans hr)⟩
    · have hp' := (h.running p hp).1
      rw [hplace] at hp'
      exact .inr (.inl ⟨p, hp, hplace, Option.some.inj (ht.symm.trans hp')⟩)
  · obtain ⟨k, rfl⟩ := Nat.exists_eq_add_of_le hge
    have hlength := h.length
    have hk : k < rest.length := by omega
    have hwaiting := h.waiting k _ (List.getElem?_eq_getElem hk)
    exact .inr (.inr ⟨rest[k], List.getElem_mem hk, Option.some.inj (ht.symm.trans hwaiting)⟩)

theorem Follows.exists_planned {i start : Nat} {statement : Statement} {asked : Bool}
    (h : Follows limits replies cancelAt s done rest planned)
    (ht : s.tasks[i]? = some ⟨some statement, .running start asked⟩) :
    ∃ p ∈ planned, p.place = i ∧ p.statement = statement ∧ p.call.start = start := by
  rcases h.task_cases ht with ⟨r, hr⟩ | ⟨p, hp, hplace, htask⟩ | ⟨c, -, hc⟩
  · cases congrArg Task.phase hr
  · cases htask
    exact ⟨p, hp, hplace, rfl, rfl⟩
  · cases congrArg Task.phase hc

theorem Follows.not_isQueued (h : Follows limits replies cancelAt s done [] planned) :
    ¬ s.IsQueued := by
  rintro ⟨t, ht, hphase, -⟩
  obtain ⟨i, hi⟩ := List.mem_iff_getElem?.mp ht
  rcases h.task_cases hi with ⟨r, rfl⟩ | ⟨p, -, -, rfl⟩ | ⟨c, hc, -⟩
  · cases hphase
  · cases hphase
  · cases hc

theorem Follows.until_finish (h : Follows limits replies cancelAt s done rest (p :: planned))
    (hb : s.clock < p.finish → s.IsQueued → s.free = some 0) :
    s.Until limits replies cancelAt p.finish where
  due i statement start asked ht ending m hm := by
    obtain ⟨q, hq, rfl, rfl, rfl⟩ := h.exists_planned ht
    have hdue : q.finish ≤ m := (h.running q hq).2.2.first ending m hm
    have hfirst : p.finish ≤ q.finish := by
      rcases List.mem_cons.mp hq with rfl | hq
      · exact le_rfl
      · exact (List.pairwise_cons.mp h.sorted).1 q hq
    exact hfirst.trans hdue
  busy := hb

/-- For a call that is to be cancelled the batch is cancelled first, unless it already is. -/
theorem exists_mayEnd {place start moment : Nat} {statement : Statement} {ending : Ending}
    (hd : Due limits.timeout cancelAt (replies place statement) start ending moment)
    (hu : s.Until limits replies cancelAt moment) :
    ∃ turns isCancelled, TimedRun limits replies cancelAt s turns { s with isCancelled } ∧
      (Environment.ofReplies replies cancelAt).MayEnd limits isCancelled place statement true
        ending := by
  by_cases hc : ending = .cancelled ∧ s.isCancelled = false
  · obtain ⟨rfl, hs⟩ := hc
    have hmay : (Environment.ofReplies replies cancelAt).MayEnd limits true place statement true
        .cancelled := hd.mayEnd (fun _ _ => rfl) fun _ => rfl
    cases hd with
    | @cancelled m hm =>
      have hcancels : (Environment.ofReplies replies cancelAt).cancels := by
        rw [hm]
        rfl
      exact ⟨[.cancel], true, (Step.cancel hcancels hs).timedRun
        (.cancel hm (hu.mono (Nat.le_max_right _ _))), hmay⟩
  · refine ⟨[], s.isCancelled, .nil, hd.mayEnd (fun _ _ => rfl) fun he => ?_⟩
    simpa [he] using hc

/-- **The first of the planned calls ends.** -/
theorem Follows.exists_finish (h : Follows limits replies cancelAt s done rest (p :: planned))
    (hb : s.clock < p.finish → s.IsQueued → s.free = some 0) :
    ∃ turns s', TimedRun limits replies cancelAt s turns s' ∧
      Follows limits replies cancelAt s' done rest planned ∧
      s'.labels = s.labels ∧ s'.free = s.free.map (· + 1) ∧ s'.clock = p.finish := by
  obtain ⟨htask, hplace, ⟨ending, hdue, ho⟩, -⟩ := h.running p List.mem_cons_self
  have huntil := h.until_finish hb
  obtain ⟨turns, isCancelled, hrun, hmay⟩ := exists_mayEnd hdue huntil
  have hstep := Step.finish (s := { s with isCancelled }) htask hmay (h.later p List.mem_cons_self)
  rw [← ho] at hstep
  obtain ⟨hnot, hnodup⟩ := List.nodup_cons.mp h.nodup
  obtain ⟨hfirst, hsorted⟩ := List.pairwise_cons.mp h.sorted
  refine ⟨_, _, hrun.snoc hstep (.finish htask hdue ⟨huntil.due, huntil.busy⟩),
    ⟨?_, ?_, ?_, ?_, hnodup, hsorted, hfirst⟩, rfl, rfl, rfl⟩
  · rw [List.length_set, h.length]
  · intro i c hi
    rw [List.getElem?_set_ne (by omega)]
    exact h.waiting i c hi
  · intro i r hi
    rcases h.ended i r hi with hs | ⟨q, hq, hqi, hqr⟩
    · left
      rw [List.getElem?_set_ne, hs]
      -- a task whose call is still planned is not over
      rintro rfl
      rw [htask] at hs
      cases congrArg Task.phase (Option.some.inj hs)
    · rcases List.mem_cons.mp hq with rfl | hq
      · left
        rw [← hqi, List.getElem?_set_self (List.getElem?_eq_some_iff.mp htask).1, ← hqr]
        rfl
      · exact .inr ⟨q, hq, hqi, hqr⟩
  · intro q hq
    obtain ⟨hqtask, hrest⟩ := h.running q (List.mem_cons_of_mem p hq)
    refine ⟨?_, hrest⟩
    rw [List.getElem?_set_ne, hqtask]
    intro heq
    exact hnot (List.mem_map.mpr ⟨q, hq, heq.symm⟩)

theorem Follows.next {c : String × Compiled} {r : Settled} {t : Task} {planned' : List Planned}
    (h : Follows limits replies cancelAt s done (c :: rest) planned)
    (htasks : s'.tasks = s.tasks.set done.length t)
    (hnew : t = r.task ∨ ∃ p ∈ planned', p.place = done.length ∧ p.ended = r.task)
    (hkept : ∀ p ∈ planned, p ∈ planned')
    (hrunning : ∀ p ∈ planned', p ∈ planned ∨ p.place = done.length ∧ t = p.task ∧
      p.call.IsPrompt limits.timeout cancelAt (replies p.place p.statement))
    (hnodup : (planned'.map Planned.place).Nodup)
    (hsorted : planned'.Pairwise Planned.Precedes)
    (hlater : ∀ p ∈ planned', s'.clock ≤ p.finish) :
    Follows limits replies cancelAt s' (done ++ [r]) rest planned' := by
  have hset : s'.tasks[done.length]? = some t := by
    rw [htasks, List.getElem?_set_self]
    rw [h.length, List.length_cons]
    omega
  have hother : ∀ i, i ≠ done.length → s'.tasks[i]? = s.tasks[i]? := fun i hi => by
    rw [htasks, List.getElem?_set_ne hi.symm]
  refine ⟨?_, ?_, ?_, ?_, hnodup, hsorted, hlater⟩
  · rw [htasks, List.length_set, h.length, List.length_append, List.length_cons,
      List.length_singleton]
    omega
  · intro i d hi
    rw [hother _ (by rw [List.length_append, List.length_singleton]; omega), List.length_append,
      List.length_singleton, Nat.add_assoc, Nat.add_comm 1 i]
    exact h.waiting (i + 1) d hi
  · intro i u hi
    rcases Nat.lt_trichotomy i done.length with hlt | rfl | hgt
    · rw [List.getElem?_append_left hlt] at hi
      rw [hother i (by omega)]
      exact (h.ended i u hi).imp_right fun ⟨p, hp, hpr⟩ => ⟨p, hkept p hp, hpr⟩
    · rw [List.getElem?_concat_length] at hi
      cases hi
      exact hnew.imp_left fun ht => by rw [hset, ht]
    · rw [List.getElem?_eq_none (by rw [List.length_append, List.length_singleton]; omega)] at hi
      cases hi
  · intro p hp
    rw [List.length_append, List.length_singleton]
    rcases hrunning p hp with hp | ⟨hplace, htask, hend⟩
    · obtain ⟨htask, hplace, hend⟩ := h.running p hp
      exact ⟨by rw [hother _ (by omega), htask], by omega, hend⟩
    · exact ⟨by rw [hplace, hset, htask], by omega, hend⟩

/-- **The next query has no statement**, and its task is over at once. -/
theorem Follows.exists_skip {c : String × Compiled} {r : Settled}
    (h : Follows limits replies cancelAt s done (c :: rest) planned) (hc : c.2.statement = none)
    (hr : r.call = none) :
    ∃ turns s', TimedRun limits replies cancelAt s turns s' ∧
      Follows limits replies cancelAt s' (done ++ [r]) rest planned ∧
      s'.labels = s.labels ∧ s'.free = s.free ∧ s'.clock = s.clock := by
  have htask : s.tasks[done.length]? = some ⟨none, .waiting⟩ := hc ▸ h.waiting 0 c rfl
  refine ⟨_, _, (Step.skip htask).timedRun .skip, h.next rfl ?_ (fun _ => id) (fun _ => .inl)
    h.nodup h.sorted h.later, rfl, rfl, rfl⟩
  left
  rw [Settled.task, hr]
  rfl

/-- **The call of the next query starts.** -/
theorem Follows.exists_start {c : String × Compiled} {r : Settled} {statement : Statement}
    {call : Call} (h : Follows limits replies cancelAt s done (c :: rest) planned)
    (hc : c.2.statement = some statement) (hr : r.call = some (statement, call))
    (he : call.IsPrompt limits.timeout cancelAt (replies done.length statement))
    (hfree : s.free ≠ some 0) (hclock : s.clock = call.start) (hfinish : call.start ≤ call.finish)
    (hlater : ∀ p ∈ planned, call.start ≤ p.finish) :
    ∃ turns s', TimedRun limits replies cancelAt s turns s' ∧
      Follows limits replies cancelAt s' (done ++ [r]) rest
        (Planned.insert ⟨done.length, statement, call⟩ planned) ∧
      s'.labels = s.labels ∧ s'.free = s.free.map (· - 1) ∧ s'.clock = call.start := by
  have htask : s.tasks[done.length]? = some ⟨some statement, .waiting⟩ := hc ▸ h.waiting 0 c rfl
  have hmem : ∀ p, p ∈ Planned.insert ⟨done.length, statement, call⟩ planned ↔
      p = ⟨done.length, statement, call⟩ ∨ p ∈ planned := fun p => List.mem_orderedInsert _
  refine ⟨_, _, (Step.start htask hfree (.inl rfl) hclock.le).timedRun
      (hclock ▸ .start (.inl rfl)),
    h.next rfl (.inr ⟨⟨done.length, statement, call⟩, (hmem _).mpr (.inl rfl), rfl, ?_⟩)
      (fun p hp => (hmem p).mpr (.inr hp)) ?_ ?_ ?_ ?_, rfl, rfl, rfl⟩
  · rw [Settled.task, hr]
    rfl
  · intro p hp
    rcases (hmem p).mp hp with rfl | hp
    · exact .inr ⟨rfl, rfl, he⟩
    · exact .inl hp
  · rw [Planned.insert, ((List.perm_orderedInsert _ _ planned).map Planned.place).nodup_iff,
      List.map_cons, List.nodup_cons]
    refine ⟨fun hm => ?_, h.nodup⟩
    obtain ⟨p, hp, hplace⟩ := List.mem_map.mp hm
    exact (h.running p hp).2.1.ne hplace
  · exact h.sorted.orderedInsert _ _
  · intro p hp
    rcases (hmem p).mp hp with rfl | hp
    · exact hfinish
    · exact hlater p hp

/-- **The planned calls end**, one by one, when no query is left. -/
theorem Follows.exists_over (h : Follows limits replies cancelAt s done [] planned) :
    ∃ turns s', TimedRun limits replies cancelAt s turns s' ∧ s'.tasks = done.map Settled.task ∧
      s'.labels = s.labels := by
  induction planned generalizing s with
  | nil =>
    refine ⟨[], s, .nil, List.ext_getElem? fun i => ?_, rfl⟩
    rw [List.getElem?_map]
    cases hi : done[i]? with
    | none =>
      rw [List.getElem?_eq_none_iff] at hi
      exact List.getElem?_eq_none (by rw [h.length]; exact hi)
    | some r => exact (h.ended i r hi).resolve_right fun ⟨_, hp, _⟩ => List.not_mem_nil hp
  | cons p planned ih =>
    obtain ⟨turns, s', hrun, hfollows, hlabels, -, -⟩ :=
      h.exists_finish fun _ hq => absurd hq h.not_isQueued
    obtain ⟨turns', s'', hrun', htasks, hlabels'⟩ := ih hfollows
    exact ⟨_, s'', hrun.append hrun', htasks, hlabels'.trans hlabels⟩

/-- **Permits in the course of a schedule**: those that nobody has had yet are free, and the others
come back when the planned calls end. Until all have been had, no time has passed. -/
inductive Fits (begin : Nat) (s : Tasks) (planned : List Planned) : Permits → Prop
  | unlimited (hfree : s.free = none) (hclock : s.clock = begin) : Fits begin s planned .unlimited
  | unused {n : Nat} (hfree : s.free = some (n + 1)) (hclock : s.clock = begin) :
    Fits begin s planned (.limited (n + 1) (planned.map Planned.finish))
  | used (hfree : s.free = some 0) (hplanned : planned ≠ []) :
    Fits begin s planned (.limited 0 (planned.map Planned.finish))

theorem Fits.congr {begin : Nat} {permits : Permits} (h : Fits begin s planned permits)
    (hfree : s'.free = s.free) (hclock : s'.clock = s.clock) : Fits begin s' planned permits := by
  cases h with
  | unlimited hf hc => exact .unlimited (hfree.trans hf) (hclock.trans hc)
  | unused hf hc => exact .unused (hfree.trans hf) (hclock.trans hc)
  | used hf hp => exact .used (hfree.trans hf) hp

/-- **The call of the next query**, which starts when there is a permit for it. -/
theorem Follows.exists_call {begin : Nat} {permits : Permits} {c : String × Compiled} {r : Settled}
    {statement : Statement} {call : Call}
    (h : Follows limits replies cancelAt s done (c :: rest) planned)
    (hp : Fits begin s planned permits) (hc : c.2.statement = some statement)
    (hr : r.call = some (statement, call))
    (hcall : Call.settle limits.timeout cancelAt (permits.next begin)
      (replies done.length statement) = some call) :
    ∃ turns s' planned', TimedRun limits replies cancelAt s turns s' ∧
      Follows limits replies cancelAt s' (done ++ [r]) rest planned' ∧
      Fits begin s' planned' (permits.occupy call.finish) ∧ s'.labels = s.labels := by
  obtain ⟨hstart, hfinish, hprompt⟩ := Call.settle_eq_some hcall
  rw [← hstart] at hfinish
  cases hp with
  | unlimited hfree hclock =>
    have hnow : s.clock = call.start := hclock.trans hstart.symm
    obtain ⟨turns, s', hrun, hfollows, hlabels, hfree', hclock'⟩ :=
      h.exists_start hc hr hprompt (by rw [hfree]; exact nofun) hnow hfinish
        fun p hp => hnow ▸ h.later p hp
    exact ⟨turns, s', _, hrun, hfollows,
      .unlimited (by rw [hfree', hfree]; rfl) (hclock'.trans hstart), hlabels⟩
  | @unused n hfree hclock =>
    have hnow : s.clock = call.start := hclock.trans hstart.symm
    obtain ⟨turns, s', hrun, hfollows, hlabels, hfree', hclock'⟩ :=
      h.exists_start hc hr hprompt (by rw [hfree]; exact nofun) hnow hfinish
        fun p hp => hnow ▸ h.later p hp
    refine ⟨turns, s', _, hrun, hfollows, ?_, hlabels⟩
    rw [Permits.occupy, ← Planned.map_finish_insert ⟨done.length, statement, call⟩]
    rw [hfree] at hfree'
    cases n with
    | zero => exact .used hfree' (List.ne_nil_of_mem ((List.mem_orderedInsert _).mpr (.inl rfl)))
    | succ n => exact .unused hfree' (hclock'.trans hstart)
  | used hfree hplanned =>
    obtain ⟨p, planned, rfl⟩ := List.exists_cons_of_ne_nil hplanned
    -- the permit is the one of the call that ends first
    obtain ⟨turns, s₁, hrun, hfollows, hlabels, hfree₁, hclock₁⟩ :=
      h.exists_finish fun _ _ => hfree
    have hnow : p.finish = call.start := hstart.symm
    rw [hfree] at hfree₁
    obtain ⟨turns', s', hrun', hfollows', hlabels', hfree', -⟩ :=
      hfollows.exists_start hc hr hprompt (by rw [hfree₁]; exact nofun)
        (hclock₁.trans hnow) hfinish
        fun q hq => hnow ▸ (List.pairwise_cons.mp h.sorted).1 q hq
    refine ⟨_, s', _, hrun.append hrun', hfollows', ?_, hlabels'.trans hlabels⟩
    rw [Permits.occupy, List.map_cons, List.tail_cons,
      ← Planned.map_finish_insert ⟨done.length, statement, call⟩]
    rw [hfree₁] at hfree'
    exact .used hfree' (List.ne_nil_of_mem ((List.mem_orderedInsert _).mpr (.inl rfl)))

end Tasks

namespace Schedule

open Tasks

variable {limits : ExecutionLimits} {cancelAt : Option Nat} {store : Store} {begin : Nat}
  {compiled : List (String × Compiled)} {settled : List Settled}

/-- The rest of a schedule is a run on time from a state in the course of it. -/
theorem exists_timedRun_of_follows {permits : Permits} {s : Tasks} {done : List Settled}
    {planned : List Planned}
    (h : runWith limits cancelAt store begin permits compiled = some settled)
    (hs : Follows limits (fun _ => store) cancelAt s done compiled planned)
    (hp : Fits begin s planned permits) :
    ∃ turns s', TimedRun limits (fun _ => store) cancelAt s turns s' ∧
      s'.tasks = (done ++ settled).map Settled.task ∧ s'.labels = s.labels := by
  induction compiled generalizing permits s done planned settled with
  | nil =>
    cases h
    rw [List.append_nil]
    exact hs.exists_over
  | cons c rest ih =>
    obtain ⟨name, c⟩ := c
    rw [runWith] at h
    cases hc : c.statement with
    | none =>
      simp only [hc] at h
      obtain ⟨others, hothers, h⟩ := Option.bind_eq_some_iff.mp h
      cases h
      obtain ⟨turns, s₁, hrun, hfollows, hlabels, hfree, hclock⟩ :=
        hs.exists_skip (r := ⟨name, c.shape, none⟩) hc rfl
      obtain ⟨turns', s', hrun', htasks, hlabels'⟩ :=
        ih hothers hfollows (hp.congr hfree hclock)
      exact ⟨_, s', hrun.append hrun', by simpa using htasks, hlabels'.trans hlabels⟩
    | some statement =>
      simp only [hc] at h
      obtain ⟨call, hcall, h⟩ := Option.bind_eq_some_iff.mp h
      obtain ⟨others, hothers, h⟩ := Option.bind_eq_some_iff.mp h
      cases h
      obtain ⟨turns, s₁, planned', hrun, hfollows, hfits, hlabels⟩ :=
        hs.exists_call (r := ⟨name, c.shape, some (statement, call)⟩) hp hc rfl hcall
      obtain ⟨turns', s', hrun', htasks, hlabels'⟩ := ih hothers hfollows hfits
      exact ⟨_, s', hrun.append hrun', by simpa using htasks, hlabels'.trans hlabels⟩

theorem follows_ofBatch (limits : ExecutionLimits) (replies : Nat → Store)
    (cancelAt : Option Nat) (begin : Nat) (compiled : List (String × Compiled)) :
    Follows limits replies cancelAt (ofBatch limits begin compiled) [] compiled [] where
  length := by simp [ofBatch]
  waiting i c hi := by simp [ofBatch, hi]
  ended _ _ hi := by cases hi
  running _ hp := absurd hp List.not_mem_nil
  nodup := .nil
  sorted := .nil
  later _ hp := absurd hp List.not_mem_nil

theorem fits_ofBatch (limits : ExecutionLimits) (begin : Nat)
    (compiled : List (String × Compiled)) :
    Fits begin (ofBatch limits begin compiled) [] (.ofLimit limits.maxConcurrent) := by
  unfold ofBatch Permits.ofLimit
  cases limits.maxConcurrent with
  | none => exact .unlimited rfl rfl
  | some n =>
    obtain ⟨k, hk⟩ := Nat.exists_eq_add_of_le' (Nat.le_max_right n 1)
    simp only [hk]
    exact .unused (by rw [Option.map_some, hk]) rfl

theorem settled?_of_tasks {s : Tasks} (hs : List.Forall₂ Settled.IsOf compiled settled)
    (hlabels : s.labels = compiled.map fun c => (c.1, c.2.shape))
    (htasks : s.tasks = settled.map Settled.task) : s.settled? = some settled := by
  have hcalls : s.tasks.mapM Task.call? = some (settled.map Settled.call) := by
    rw [htasks, mapM_eq_some, List.forall₂_map_left_iff, List.forall₂_map_right_iff,
      List.forall₂_same]
    exact fun _ _ => rfl
  rw [settled?, hcalls, Option.map_some, hlabels]
  congr 1
  clear hcalls htasks hlabels
  induction hs with
  | nil => rfl
  | @cons c r _ _ hcr _ ih =>
    obtain ⟨name, shape, call⟩ := r
    rw [List.map_cons, List.map_cons, List.zipWith_cons_cons, ih]
    rw [← hcr.name, ← hcr.shape]

/-- **A schedule is a run on time** of the tasks of its batch, after which all tasks are over and
have the calls of the schedule. -/
theorem exists_timedRun (h : run limits cancelAt store begin compiled = some settled) :
    ∃ turns s, TimedRun limits (fun _ => store) cancelAt (ofBatch limits begin compiled) turns s ∧
      s.IsOver ∧ s.settled? = some settled := by
  obtain ⟨turns, s, hrun, htasks, hlabels⟩ :=
    exists_timedRun_of_follows h (follows_ofBatch ..) (fits_ofBatch ..)
  rw [List.nil_append] at htasks
  refine ⟨turns, s, hrun, fun t ht => ?_, settled?_of_tasks (forall₂_of_runWith h) hlabels htasks⟩
  rw [htasks] at ht
  obtain ⟨r, -, rfl⟩ := List.mem_map.mp ht
  rfl

/-- **A schedule is a run** of the tasks of its batch. -/
theorem exists_run (h : run limits cancelAt store begin compiled = some settled) :
    ∃ turns s, Run limits (.ofStore store cancelAt) (ofBatch limits begin compiled) turns s ∧
      s.IsOver ∧ s.settled? = some settled := by
  obtain ⟨turns, s, hrun, ho, hs⟩ := exists_timedRun h
  exact ⟨turns, s, hrun.run, ho, hs⟩

end Schedule

end QueryBatch
