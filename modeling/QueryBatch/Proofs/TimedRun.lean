import QueryBatch.Proofs.TaskProgress

/-! # Batches that are run on time

In a run on time no call is ever overdue: a call that is running is not due before the present
moment, and one that is over has ended when it was due. The batch ends when its last call does, and
it does not last longer than until the cancellation, if there is one. Time does not stand still
either: until all tasks are over, some turn comes on time.

* `Task.IsPunctual`: a task beside its place and the time. `Tasks.Punctual`: all tasks.
* `Tasks.TimedRun.punctual`: **in each state of a run on time** all tasks are punctual.
* `Tasks.TimedRun.exists_onTime`: **while tasks are not over**, some turn comes on time.
* `Tasks.TimedRun.exists_prompt`: **what a run on time has settled.**
-/

namespace QueryBatch

/-! ### Punctual tasks -/

/-- **A task beside its place and the time.** A call that is running is not overdue, and one that
is over has ended when it was due. -/
inductive Task.IsPunctual (limits : ExecutionLimits) (replies : Nat → Store)
    (cancelAt : Option Nat) (begin clock place : Nat) : Task → Prop
  | waiting (statement : Option Statement) :
    IsPunctual limits replies cancelAt begin clock place ⟨statement, .waiting⟩
  | skipped : IsPunctual limits replies cancelAt begin clock place ⟨none, .settled none⟩
  | running {statement : Statement} {start : Nat} {asked : Bool} (hb : begin ≤ start)
    (hs : start ≤ clock)
    (hd : ∀ ending moment, Due limits.timeout cancelAt (replies place statement) start ending
      moment → clock ≤ moment)
    (ha : asked = true ∨ ∃ ending, (∀ outcome, ending ≠ .answered outcome) ∧
      Due limits.timeout cancelAt (replies place statement) start ending start) :
    IsPunctual limits replies cancelAt begin clock place ⟨some statement, .running start asked⟩
  | settled {statement : Statement} {call : Call} (hb : begin ≤ call.start)
    (hf : call.finish ≤ clock)
    (hp : call.IsPrompt limits.timeout cancelAt (replies place statement)) :
    IsPunctual limits replies cancelAt begin clock place
      ⟨some statement, .settled (some (statement, call))⟩

theorem Task.IsPunctual.mono {limits : ExecutionLimits} {replies : Nat → Store}
    {cancelAt : Option Nat} {begin clock clock' place : Nat} {t : Task}
    (h : t.IsPunctual limits replies cancelAt begin clock place) (hle : clock ≤ clock')
    (hd : ∀ statement start asked, t = ⟨some statement, .running start asked⟩ → ∀ ending moment,
      Due limits.timeout cancelAt (replies place statement) start ending moment →
        clock' ≤ moment) :
    t.IsPunctual limits replies cancelAt begin clock' place := by
  cases h with
  | waiting => exact .waiting _
  | skipped => exact .skipped
  | running hb hs _ ha => exact .running hb (hs.trans hle) (hd _ _ _ rfl) ha
  | settled hb hf hp => exact .settled hb (hf.trans hle) hp

namespace Tasks

variable {limits : ExecutionLimits} {replies : Nat → Store} {cancelAt : Option Nat}
  {begin : Nat} {compiled : List (String × Compiled)} {turns : List Turn} {turn : Turn}
  {s s' : Tasks}

/-- **All tasks are punctual.** Time has gone on until the end of a call, if at all, and not past
the cancellation. -/
structure Punctual (limits : ExecutionLimits) (replies : Nat → Store) (cancelAt : Option Nat)
    (begin : Nat) (s : Tasks) : Prop where
  begin_le : begin ≤ s.clock
  each : ∀ (place : Nat) t, s.tasks[place]? = some t →
    t.IsPunctual limits replies cancelAt begin s.clock place
  last : s.clock = begin ∨ ∃ (place : Nat) (t : Task) (statement : Statement) (call : Call),
    s.tasks[place]? = some t ∧ t.phase = .settled (some (statement, call)) ∧ call.finish = s.clock
  cancelled : ∀ moment, cancelAt = some moment → s.clock ≤ max begin moment

theorem forall_set {P : Nat → Task → Prop} {tasks : List Task} {place : Nat} {u : Task}
    (h : ∀ (i : Nat) t, i ≠ place → tasks[i]? = some t → P i t) (hu : P place u) :
    ∀ (i : Nat) t, (tasks.set place u)[i]? = some t → P i t := by
  intro i t ht
  by_cases hi : i = place
  · subst hi
    obtain ⟨hlt, hget⟩ := List.getElem?_eq_some_iff.mp ht
    have hu' : u = t := by simpa using hget
    rwa [← hu']
  · rw [List.getElem?_set_ne (Ne.symm hi)] at ht
    exact h i t hi ht

theorem punctual_ofBatch :
    Punctual limits replies cancelAt begin (ofBatch limits begin compiled) := by
  refine ⟨le_rfl, fun place t ht => ?_, .inl rfl, fun moment _ => Nat.le_max_left _ _⟩
  obtain ⟨c, -, rfl⟩ := List.mem_map.mp (List.mem_of_getElem? ht)
  exact .waiting _

theorem Punctual.last_of_set (h : Punctual limits replies cancelAt begin s) {place : Nat}
    {t u : Task} (ht : s.tasks[place]? = some t) (hover : t.call? = none)
    (htasks : s'.tasks = s.tasks.set place u) (hclock : s'.clock = s.clock) :
    s'.clock = begin ∨ ∃ (i : Nat) (t : Task) (statement : Statement) (call : Call),
      s'.tasks[i]? = some t ∧ t.phase = .settled (some (statement, call)) ∧
        call.finish = s'.clock := by
  rw [hclock]
  rcases h.last with hb | ⟨i, v, statement, call, hv, hphase, hf⟩
  · exact .inl hb
  · refine .inr ⟨i, v, statement, call, ?_, hphase, hf⟩
    rw [htasks, List.getElem?_set_ne, hv]
    rintro rfl
    cases ht.symm.trans hv
    rw [Task.call?_eq_some_iff.mpr hphase] at hover
    cases hover

/-- **A turn on time keeps all tasks punctual.** -/
theorem Punctual.step (h : Punctual limits replies cancelAt begin s)
    (hs : Step limits (.ofReplies replies cancelAt) s turn s')
    (ht : s.OnTime limits replies cancelAt turn) :
    Punctual limits replies cancelAt begin s' := by
  cases hs with
  | cancel => exact ⟨h.begin_le, h.each, h.last, h.cancelled⟩
  | skip htask =>
    exact ⟨h.begin_le, forall_set (fun i t _ hi => h.each i t hi) .skipped,
      h.last_of_set htask rfl rfl rfl, h.cancelled⟩
  | start htask =>
    cases ht with
    | start ha =>
      exact ⟨h.begin_le,
        forall_set (fun i t _ hi => h.each i t hi)
          (.running h.begin_le le_rfl (fun _ _ hd => hd.le) ha),
        h.last_of_set htask rfl rfl rfl, h.cancelled⟩
  | @finish place start moment statement asked ending htask _ hm =>
    cases ht with
    | finish htask' hd hu =>
      cases htask.symm.trans htask'
      cases h.each place _ htask with
      | running hb hstart _ _ =>
        have hprompt : (Call.mk start moment (ending.outcome limits.timeout)).IsPrompt
            limits.timeout cancelAt (replies place statement) :=
          ⟨⟨ending, hd, rfl⟩, hu.due place statement start asked htask⟩
        refine ⟨h.begin_le.trans hm, forall_set (fun i t _ hi => ?_) (.settled hb le_rfl hprompt),
          .inr ⟨place, _, statement, _, List.getElem?_set_self
            (List.getElem?_eq_some_iff.mp htask).1, rfl, rfl⟩, fun m hc => ?_⟩
        · refine (h.each i t hi).mono hm ?_
          rintro statement' start' asked' rfl
          exact hu.due i statement' start' asked' hi
        · -- the call that ends now is due at the cancellation at the latest
          have hlatest := hprompt.first _ _ (.cancelled hc)
          have hclock := h.cancelled m hc
          have hmoment : moment ≤ max start m := hlatest
          show moment ≤ max begin m
          omega

/-- **In each state of a run on time** all tasks are punctual. -/
theorem TimedRun.punctual
    (h : TimedRun limits replies cancelAt (ofBatch limits begin compiled) turns s) :
    Punctual limits replies cancelAt begin s := by
  induction h with
  | nil => exact punctual_ofBatch
  | snoc _ hs ht ih => exact ih.step hs ht

/-! ### Time does not stand still -/

theorem Run.isSome_free {env : Environment}
    (h : Run limits env (ofBatch limits begin compiled) turns s) :
    s.free.isSome = limits.maxConcurrent.isSome := by
  induction h with
  | nil => exact Option.isSome_map
  | snoc _ hs ih =>
    cases hs with
    | cancel | skip => exact ih
    | start | finish => exact Option.isSome_map.trans ih

theorem Run.free_ne_zero {env : Environment}
    (h : Run limits env (ofBatch limits begin compiled) turns s) (hr : s.running = 0) :
    s.free ≠ some 0 := by
  intro hfree
  obtain ⟨_ | n, timeout⟩ := limits
  · have hnone := h.isSome_free
    rw [hfree] at hnone
    cases hnone
  · obtain ⟨free, hsome, hsum⟩ := h.held.permits
    cases hfree.symm.trans hsome
    omega

theorem Run.exists_due {place start : Nat} {statement : Statement} {asked : Bool}
    (h : Run limits (.ofReplies replies cancelAt) (ofBatch limits begin compiled) turns s)
    (he : (Environment.ofReplies replies cancelAt).Ends limits compiled)
    (ht : s.tasks[place]? = some ⟨some statement, .running start asked⟩) :
    ∃ ending moment,
      Due limits.timeout cancelAt (replies place statement) start ending moment := by
  obtain ⟨c, hc, hstatement⟩ :
      ∃ c, compiled[place]? = some c ∧ c.2.statement = some statement := by
    have heq := congrArg (fun l => l[place]?) h.sound.statements
    simpa [ht, eq_comm] using heq
  rcases he place c statement hc hstatement with ⟨outcome, hdelay, -⟩ | htimeout | hcancels
  · obtain ⟨delay, hd⟩ := Option.isSome_iff_exists.mp hdelay
    exact ⟨_, _, .answered hd⟩
  · obtain ⟨allowed, ha⟩ := Option.isSome_iff_exists.mp htimeout
    exact ⟨_, _, .expired ha⟩
  · obtain ⟨moment, hm⟩ := Option.isSome_iff_exists.mp hcancels
    exact ⟨_, _, .cancelled hm⟩

/-- A call is due at a moment. -/
def IsDueAt (limits : ExecutionLimits) (replies : Nat → Store) (cancelAt : Option Nat)
    (s : Tasks) (moment : Nat) : Prop :=
  ∃ (place : Nat) (statement : Statement) (start : Nat) (asked : Bool) (ending : Ending),
    s.tasks[place]? = some ⟨some statement, .running start asked⟩ ∧
      Due limits.timeout cancelAt (replies place statement) start ending moment

/-- **The first call that is due can end on time**, if no task waits for a permit that is free. -/
theorem Punctual.exists_onTime_of_due (h : Punctual limits replies cancelAt begin s)
    (hq : s.IsQueued → s.free = some 0)
    (hdue : ∃ moment, s.IsDueAt limits replies cancelAt moment) :
    ∃ turn s', Step limits (.ofReplies replies cancelAt) s turn s' ∧
      s.OnTime limits replies cancelAt turn := by
  classical
  obtain ⟨place, statement, start, asked, ending, ht, hd⟩ := Nat.find_spec hdue
  have hfirst : ∀ m, s.IsDueAt limits replies cancelAt m → Nat.find hdue ≤ m :=
    fun m hm => Nat.find_min' hdue hm
  generalize Nat.find hdue = moment at hd hfirst
  have huntil : s.Until limits replies cancelAt moment :=
    ⟨fun i st b a hi e m hm => hfirst m ⟨i, st, b, a, e, hi, hm⟩, fun _ => hq⟩
  cases h.each place _ ht with
  | running _ hs hclock ha =>
    -- a call that the store was not asked for is due at its start in another way
    obtain ⟨ending, hd, hanswered⟩ : ∃ ending,
        Due limits.timeout cancelAt (replies place statement) start ending moment ∧
          ∀ outcome, ending = .answered outcome → asked = true := by
      rcases ha with rfl | ⟨other, hother, hnow⟩
      · exact ⟨ending, hd, fun _ _ => rfl⟩
      · have hle := hfirst start ⟨place, statement, start, asked, other, ht, hnow⟩
        have hge := hd.le
        have hmoment : start = moment := by omega
        exact ⟨other, hmoment ▸ hnow, fun outcome ho => absurd ho (hother outcome)⟩
    by_cases hcancel : ending = .cancelled ∧ s.isCancelled = false
    · obtain ⟨rfl, hopen⟩ := hcancel
      cases hd with
      | @cancelled m hm =>
        have hcancels : (Environment.ofReplies replies cancelAt).cancels := by
          rw [hm]
          rfl
        exact ⟨_, _, .cancel hcancels hopen, .cancel hm (huntil.mono (Nat.le_max_right _ _))⟩
    · have hmay := hd.mayEnd hanswered fun he => by simpa [he] using hcancel
      exact ⟨_, _, .finish ht hmay (hclock _ _ hd), .finish ht hd huntil⟩

/-- **While tasks are not over**, some turn comes on time, if every call ends. -/
theorem TimedRun.exists_onTime
    (h : TimedRun limits replies cancelAt (ofBatch limits begin compiled) turns s)
    (he : (Environment.ofReplies replies cancelAt).Ends limits compiled) (ho : ¬ s.IsOver) :
    ∃ turn s', Step limits (.ofReplies replies cancelAt) s turn s' ∧
      s.OnTime limits replies cancelAt turn := by
  by_cases hskip : ∃ place : Nat, s.tasks[place]? = some ⟨none, .waiting⟩
  · obtain ⟨place, ht⟩ := hskip
    exact ⟨_, _, .skip ht, .skip⟩
  by_cases hqueue : s.IsQueued ∧ s.free ≠ some 0
  · obtain ⟨⟨⟨_ | statement, phase⟩, hm, rfl, hsome⟩, hfree⟩ := hqueue
    · cases hsome
    · obtain ⟨place, ht⟩ := List.mem_iff_getElem?.mp hm
      exact ⟨_, _, .start ht hfree (.inl rfl) le_rfl, .start (.inl rfl)⟩
  -- now every task that waits needs the permit of a call that is running
  have hq : s.IsQueued → s.free = some 0 := fun hq => by_contra fun hf => hqueue ⟨hq, hf⟩
  refine h.punctual.exists_onTime_of_due hq ?_
  obtain ⟨t, hm, hover⟩ : ∃ t ∈ s.tasks, ¬ t.call?.isSome = true := by
    simpa [IsOver] using ho
  have hrunning : s.running ≠ 0 := by
    intro hr
    have hfree := h.run.free_ne_zero hr
    have hidle := List.countP_eq_zero.mp hr t hm
    obtain ⟨place, ht⟩ := List.mem_iff_getElem?.mp hm
    obtain ⟨statement, phase⟩ := t
    cases phase with
    | waiting =>
      cases statement with
      | none => exact hskip ⟨place, ht⟩
      | some statement => exact hfree (hq ⟨_, hm, rfl, rfl⟩)
    | running => exact hidle rfl
    | settled call => exact hover rfl
  obtain ⟨u, hu, hrunning⟩ := List.countP_pos_iff.mp (Nat.pos_of_ne_zero hrunning)
  obtain ⟨place, hplace⟩ := List.mem_iff_getElem?.mp hu
  cases h.punctual.each place u hplace with
  | waiting | skipped | settled => cases hrunning
  | running =>
    obtain ⟨ending, moment, hdue⟩ := h.run.exists_due he hplace
    exact ⟨moment, place, _, _, _, ending, hplace, hdue⟩

/-! ### What a run on time has settled -/

/-- **A query that was run on time** after the beginning of its batch: it has no statement, or a
prompt call. -/
inductive RunsPromptly (timeout cancelAt : Option Nat) (begin : Nat) (store : Store) :
    Option Statement → Option (Statement × Call) → Prop
  | unasked : RunsPromptly timeout cancelAt begin store none none
  | prompt {statement : Statement} {call : Call} (hb : begin ≤ call.start)
    (hp : call.IsPrompt timeout cancelAt (store statement)) :
    RunsPromptly timeout cancelAt begin store (some statement) (some (statement, call))

end Tasks

namespace Schedule

theorem exists_place {compiled : List (String × Compiled)} {settled : List Settled} {r : Settled}
    (hlength : settled.length = compiled.length) (hr : r ∈ settled) :
    ∃ (place : Nat) (c : String × Compiled),
      compiled[place]? = some c ∧ settled[place]? = some r := by
  obtain ⟨place, hplace⟩ := List.mem_iff_getElem?.mp hr
  have hlt : place < compiled.length := hlength ▸ (List.getElem?_eq_some_iff.mp hplace).1
  exact ⟨place, _, List.getElem?_eq_getElem hlt, hplace⟩

/-- The last end of a call is the least moment that is no earlier than any. -/
theorem finish_le_iff {begin m : Nat} {settled : List Settled} :
    finish begin settled ≤ m ↔ begin ≤ m ∧ ∀ c ∈ calls settled, c.2.finish ≤ m := by
  unfold finish
  induction calls settled generalizing begin with
  | nil => simp
  | cons c r ih => rw [List.foldl_cons, ih, List.forall_mem_cons, Nat.max_le, and_assoc]

theorem begin_le_finish (begin : Nat) (settled : List Settled) : begin ≤ finish begin settled :=
  (finish_le_iff.mp le_rfl).1

theorem le_finish {begin : Nat} {settled : List Settled} {r : Settled} {statement : Statement}
    {call : Call} (hr : r ∈ settled) (hc : r.call = some (statement, call)) :
    call.finish ≤ finish begin settled :=
  (finish_le_iff.mp le_rfl).2 _ (List.mem_filterMap.mpr ⟨r, hr, hc⟩)

end Schedule

namespace Tasks

variable {limits : ExecutionLimits} {replies : Nat → Store} {cancelAt : Option Nat}
  {begin : Nat} {compiled : List (String × Compiled)} {turns : List Turn} {s : Tasks}

theorem Punctual.clock_eq_finish {settled : List Settled}
    (h : Punctual limits replies cancelAt begin s) (hl : s.tasks.length = settled.length)
    (ht : ∀ (place : Nat) r, settled[place]? = some r →
      ∃ statement, s.tasks[place]? = some ⟨statement, .settled r.call⟩) :
    s.clock = Schedule.finish begin settled := by
  refine Nat.le_antisymm ?_ (Schedule.finish_le_iff.mpr ⟨h.begin_le, fun c hc => ?_⟩)
  · rcases h.last with hb | ⟨place, t, statement, call, hplace, hphase, hf⟩
    · rw [hb]
      exact Schedule.begin_le_finish _ _
    · have hlt : place < settled.length := hl ▸ (List.getElem?_eq_some_iff.mp hplace).1
      obtain ⟨_, htask⟩ := ht place _ (List.getElem?_eq_getElem hlt)
      cases hplace.symm.trans htask
      rw [← hf]
      exact Schedule.le_finish (List.getElem_mem hlt) (Phase.settled.inj hphase)
  · obtain ⟨r, hr, hcall⟩ := List.mem_filterMap.mp hc
    obtain ⟨place, hplace⟩ := List.mem_iff_getElem?.mp hr
    obtain ⟨_, htask⟩ := ht place r hplace
    rw [hcall] at htask
    cases h.each place _ htask with
    | settled _ hf => exact hf

/-- **What a run on time has settled**: each query with a prompt call of its own, if it has a
statement, and the batch when the last of them ended. -/
theorem TimedRun.exists_prompt
    (h : TimedRun limits replies cancelAt (ofBatch limits begin compiled) turns s)
    (ho : s.IsOver) :
    ∃ settled, s.settled? = some settled ∧ settled.length = compiled.length ∧
      s.clock = Schedule.finish begin settled ∧
      ∀ (place : Nat) c r, compiled[place]? = some c → settled[place]? = some r →
        r.name = c.1 ∧ r.shape = c.2.shape ∧
          RunsPromptly limits.timeout cancelAt begin (replies place) c.2.statement r.call := by
  have hsound := h.run.sound
  obtain ⟨settled, hsettled, hlength, heach⟩ := hsound.exists_settled_tasks ho
  have htasks : s.tasks.length = compiled.length := by
    simpa using congrArg List.length hsound.statements
  refine ⟨settled, hsettled, hlength,
    h.punctual.clock_eq_finish (htasks.trans hlength.symm) fun place r hr => ?_,
    fun place c r hc hr => ?_⟩
  · have hlt : place < compiled.length := hlength ▸ (List.getElem?_eq_some_iff.mp hr).1
    exact ⟨_, (heach place _ r (List.getElem?_eq_getElem hlt) hr).2.2⟩
  · obtain ⟨hname, hshape, htask⟩ := heach place c r hc hr
    refine ⟨hname, hshape, ?_⟩
    have hpunctual := h.punctual.each place _ htask
    generalize c.2.statement = statement at hpunctual ⊢
    generalize r.call = call at hpunctual ⊢
    cases hpunctual with
    | skipped => exact .unasked
    | settled hb _ hp => exact .prompt hb hp

end Tasks

end QueryBatch
