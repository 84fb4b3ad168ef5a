import QueryBatch.Proofs.Permits
import QueryBatch.Proofs.Settlement

/-! # Permits and progress of the tasks

A task holds a permit exactly as long as its call is running, whatever ends the call. So the permits
that are free and the calls that are running always add up, and a task that waits for a permit waits
for calls that are running. Each turn leaves less to do, so the turns come to an end; and if every
call ends in some way, the tasks are then all over.

* `Tasks.Held`: who holds the permits. `Tasks.Run.held`: **in each state of a run**.
* `Tasks.left`, `Tasks.Run.length_add_left_le`: **every run is finite**.
* `Tasks.Held.exists_step`: **no state is stuck** while its running calls may end.
* `Tasks.Lively`, `Tasks.lively_of_limit`: all of this together.
-/

namespace QueryBatch

/-- It has no permit yet. -/
def Phase.isWaiting : Phase → Bool
  | .waiting => true
  | _ => false

/-- **Every call ends**: the store answers it, or it runs out of time, or it is cancelled. -/
def Environment.Ends (env : Environment) (limits : ExecutionLimits)
    (compiled : List (String × Compiled)) : Prop :=
  ∀ (place : Nat) c statement, compiled[place]? = some c → c.2.statement = some statement →
    (∃ outcome, env.answers place statement outcome) ∨ limits.timeout.isSome = true ∨ env.cancels

namespace Tasks

/-- The number of tasks that have no permit yet. -/
def waiting (s : Tasks) : Nat := s.tasks.countP fun t => t.phase.isWaiting

/-- **The turns that are left** at most: two for each task that waits, one for each that is running,
and the cancellation. -/
def left (s : Tasks) : Nat := 2 * s.waiting + s.running + (!s.isCancelled).toNat

/-- Each call that is running may end now. -/
def CanEnd (limits : ExecutionLimits) (env : Environment) (s : Tasks) : Prop :=
  ∀ (place : Nat) statement start asked,
    s.tasks[place]? = some ⟨some statement, .running start asked⟩ →
    ∃ ending, env.MayEnd limits s.isCancelled place statement asked ending

variable {limits : ExecutionLimits} {env : Environment} {begin n : Nat} {timeout : Option Nat}
  {compiled : List (String × Compiled)} {turns : List Turn} {turn : Turn} {s s' : Tasks}

/-! ### Counting tasks -/

theorem countP_set_add {α : Type} {p : α → Bool} {l : List α} {i : Nat} {a : α}
    (h : l[i]? = some a) (b : α) :
    (l.set i b).countP p + (p a).toNat = l.countP p + (p b).toNat := by
  obtain ⟨hi, rfl⟩ := List.getElem?_eq_some_iff.mp h
  have hle := List.boole_getElem_le_countP (p := p) hi
  have htoNat : ∀ c : Bool, (if c = true then 1 else 0) = c.toNat := by decide
  rw [htoNat] at hle
  rw [List.countP_set hi, htoNat, htoNat]
  omega

theorem waiting_set {place : Nat} {t u : Task} (h : s.tasks[place]? = some t)
    (hs : s'.tasks = s.tasks.set place u) :
    s'.waiting + t.phase.isWaiting.toNat = s.waiting + u.phase.isWaiting.toNat := by
  rw [waiting, hs]
  exact countP_set_add h u

theorem running_set {place : Nat} {t u : Task} (h : s.tasks[place]? = some t)
    (hs : s'.tasks = s.tasks.set place u) :
    s'.running + t.phase.isRunning.toNat = s.running + u.phase.isRunning.toNat := by
  rw [running, hs]
  exact countP_set_add h u

theorem running_ofBatch : (ofBatch limits begin compiled).running = 0 := by
  refine List.countP_eq_zero.mpr fun t ht => ?_
  obtain ⟨c, -, rfl⟩ := List.mem_map.mp ht
  exact Bool.false_ne_true

theorem left_ofBatch : (ofBatch limits begin compiled).left ≤ 2 * compiled.length + 1 := by
  have hwaiting : (ofBatch limits begin compiled).waiting ≤ compiled.length :=
    List.countP_le_length.trans (List.length_map _).le
  have hcancelled := Bool.toNat_le (!(ofBatch limits begin compiled).isCancelled)
  rw [left, running_ofBatch]
  omega

/-- **Each turn leaves less to do.** -/
theorem Step.left_lt (h : Step limits env s turn s') : s'.left < s.left := by
  unfold left
  generalize hs' : s' = next at h ⊢
  cases h with
  | cancel he hs =>
    subst hs'
    simp [hs, waiting, running]
  | skip ht | start ht | finish ht =>
    have hw := waiting_set ht (congrArg Tasks.tasks hs')
    have hr := running_set ht (congrArg Tasks.tasks hs')
    have hc : s'.isCancelled = s.isCancelled := by rw [hs']
    rw [← hs', hc]
    simp only [Phase.isWaiting, Phase.isRunning, Bool.toNat_true, Bool.toNat_false] at hw hr
    omega

/-- **Every run is finite.** -/
theorem Run.length_add_left_le (h : Run limits env s turns s') :
    turns.length + s'.left ≤ s.left := by
  induction h with
  | nil => exact (Nat.zero_add _).le
  | snoc _ hs ih =>
    have hlt := hs.left_lt
    rw [List.length_append, List.length_singleton]
    omega

theorem Run.length_le (h : Run limits env (ofBatch limits begin compiled) turns s) :
    turns.length ≤ 2 * compiled.length + 1 := by
  have hle := h.length_add_left_le
  have hstart : (ofBatch limits begin compiled).left ≤ 2 * compiled.length + 1 := left_ofBatch
  omega

/-! ### Who holds the permits -/

/-- **Who holds the permits** of a batch that has `n` of them: the tasks whose calls are running.
They have statements, and a call that the store was not asked for is out of time or cancelled. -/
structure Held (n : Nat) (limits : ExecutionLimits) (s : Tasks) : Prop where
  permits : ∃ free, s.free = some free ∧ free + s.running = n
  statement : ∀ t ∈ s.tasks, t.phase.isRunning = true → t.statement.isSome = true
  unasked : ∀ t ∈ s.tasks, ∀ start, t.phase = .running start false →
    limits.timeout.isSome = true ∨ s.isCancelled = true

theorem held_ofBatch :
    Held (max n 1) ⟨some n, timeout⟩ (ofBatch ⟨some n, timeout⟩ begin compiled) := by
  refine ⟨⟨max n 1, rfl, by rw [running_ofBatch, Nat.add_zero]⟩, fun t ht hr => ?_,
    fun t ht start hr => ?_⟩
  · obtain ⟨c, -, rfl⟩ := List.mem_map.mp ht
    cases hr
  · obtain ⟨c, -, rfl⟩ := List.mem_map.mp ht
    cases hr

theorem forall_mem_set {P : Task → Prop} {tasks : List Task} {place : Nat} {u : Task}
    (h : ∀ t ∈ tasks, P t) (hu : P u) : ∀ t ∈ tasks.set place u, P t := by
  intro t ht
  rcases List.mem_or_eq_of_mem_set ht with ht | rfl
  · exact h t ht
  · exact hu

/-- **A turn keeps the permits together**: one goes out when a call starts, and comes back when it
ends, however it ends. -/
theorem Held.step (h : Held n limits s) (hs : Step limits env s turn s') : Held n limits s' := by
  obtain ⟨⟨free, hfree, hn⟩, hstatement, hunasked⟩ := h
  generalize hs' : s' = next at hs
  cases hs with
  | cancel =>
    subst hs'
    exact ⟨⟨free, hfree, hn⟩, hstatement, fun _ _ _ _ => .inr rfl⟩
  | skip ht =>
    have hr := running_set ht (congrArg Tasks.tasks hs')
    simp only [Phase.isRunning, Bool.toNat_false] at hr
    subst hs'
    exact ⟨⟨free, hfree, by omega⟩, forall_mem_set hstatement nofun, forall_mem_set hunasked nofun⟩
  | start ht hp ha =>
    have hr := running_set ht (congrArg Tasks.tasks hs')
    simp only [Phase.isRunning, Bool.toNat_true, Bool.toNat_false] at hr
    have hpos : free ≠ 0 := fun h => hp (by rw [hfree, h])
    subst hs'
    refine ⟨⟨free - 1, by rw [hfree]; rfl, by omega⟩, forall_mem_set hstatement fun _ => rfl,
      forall_mem_set hunasked fun start hstart => ?_⟩
    cases hstart
    exact ha.resolve_left Bool.false_ne_true
  | finish ht =>
    have hr := running_set ht (congrArg Tasks.tasks hs')
    simp only [Phase.isRunning, Bool.toNat_true, Bool.toNat_false] at hr
    subst hs'
    exact ⟨⟨free + 1, by rw [hfree]; rfl, by omega⟩, forall_mem_set hstatement nofun,
      forall_mem_set hunasked nofun⟩

theorem Run.held
    (h : Run ⟨some n, timeout⟩ env (ofBatch ⟨some n, timeout⟩ begin compiled) turns s) :
    Held (max n 1) ⟨some n, timeout⟩ s := by
  induction h with
  | nil => exact held_ofBatch
  | snoc _ hs ih => exact ih.step hs

/-! ### No state is stuck -/

theorem Held.exists_step_of_waiting (h : Held n limits s) (hn : 0 < n) (hr : s.running = 0)
    {place : Nat} {statement : Option Statement}
    (ht : s.tasks[place]? = some ⟨statement, .waiting⟩) :
    ∃ turn s', turn.place? = some place ∧ Step limits env s turn s' := by
  cases statement with
  | none => exact ⟨_, _, rfl, .skip ht⟩
  | some statement =>
    obtain ⟨free, hfree, hsum⟩ := h.permits
    have hpos : s.free ≠ some 0 := by
      rw [hfree]
      intro h
      cases h
      omega
    exact ⟨_, _, rfl, .start ht hpos (.inl rfl) le_rfl⟩

theorem Held.exists_running_or_step (h : Held n limits s) (hn : 0 < n) (ho : ¬ s.IsOver) :
    (∃ (place : Nat) (statement : Statement) (start : Nat) (asked : Bool),
      s.tasks[place]? = some ⟨some statement, .running start asked⟩) ∨
    ∃ turn s', turn.place?.isSome = true ∧ Step limits env s turn s' := by
  by_cases hr : s.running = 0
  · right
    obtain ⟨t, hm, hover⟩ : ∃ t ∈ s.tasks, ¬ t.call?.isSome = true := by
      simpa [IsOver] using ho
    obtain ⟨place, ht⟩ := List.mem_iff_getElem?.mp hm
    have hrunning := List.countP_eq_zero.mp hr t hm
    obtain ⟨statement, phase⟩ := t
    cases phase with
    | waiting =>
      obtain ⟨turn, s', hplace, hs⟩ := h.exists_step_of_waiting hn hr ht
      exact ⟨turn, s', by rw [hplace]; rfl, hs⟩
    | running => exact absurd rfl hrunning
    | settled call => exact absurd rfl hover
  · left
    obtain ⟨t, hm, hrunning⟩ := List.countP_pos_iff.mp (Nat.pos_of_ne_zero hr)
    obtain ⟨place, ht⟩ := List.mem_iff_getElem?.mp hm
    obtain ⟨statement, hstatement⟩ := Option.isSome_iff_exists.mp (h.statement t hm hrunning)
    obtain ⟨_, phase⟩ := t
    cases hstatement
    cases phase with
    | running start asked => exact ⟨place, statement, start, asked, ht⟩
    | waiting => cases hrunning
    | settled => cases hrunning

/-- **No state is stuck** while its running calls may end: a task can go on, or a call can end. -/
theorem Held.exists_step (h : Held n limits s) (hn : 0 < n) (ho : ¬ s.IsOver)
    (he : s.CanEnd limits env) :
    ∃ turn s', turn.place?.isSome = true ∧ Step limits env s turn s' := by
  rcases h.exists_running_or_step hn ho with ⟨place, statement, start, asked, ht⟩ | hstep
  · obtain ⟨ending, hend⟩ := he place statement start asked ht
    exact ⟨_, _, rfl, .finish ht hend le_rfl⟩
  · exact hstep

theorem Held.exists_step_of_ends (h : Held n limits s) (hn : 0 < n) (ho : ¬ s.IsOver)
    (hs : Sound limits env compiled turns s) (he : env.Ends limits compiled) :
    ∃ turn s', Step limits env s turn s' := by
  rcases h.exists_running_or_step hn ho with ⟨place, statement, start, asked, ht⟩ | hstep
  · have hexpired : limits.timeout.isSome = true → ∃ turn s', Step limits env s turn s' :=
      fun htimeout => ⟨_, _, .finish ht (.expired htimeout) le_rfl⟩
    have hcancelled : s.isCancelled = true → ∃ turn s', Step limits env s turn s' :=
      fun hc => ⟨_, _, .finish ht (.cancelled hc) le_rfl⟩
    obtain ⟨c, hc, hstatement⟩ :
        ∃ c, compiled[place]? = some c ∧ c.2.statement = some statement := by
      have heq := congrArg (fun l => l[place]?) hs.statements
      simpa [ht, eq_comm] using heq
    rcases he place c statement hc hstatement with ⟨outcome, hanswer⟩ | htimeout | hcancels
    · cases asked with
      | true => exact ⟨_, _, .finish ht (.answered rfl hanswer) le_rfl⟩
      | false =>
        rcases h.unasked _ (List.mem_of_getElem? ht) start rfl with htimeout | hc
        · exact hexpired htimeout
        · exact hcancelled hc
    · exact hexpired htimeout
    · cases hc : s.isCancelled with
      | true => exact hcancelled hc
      | false => exact ⟨_, _, .cancel hcancels hc⟩
  · obtain ⟨turn, s', -, hstep⟩ := hstep
    exact ⟨turn, s', hstep⟩

/-! ### All of this together -/

/-- **A state of a run with `n` permits.** -/
structure Lively (n : Nat) (limits : ExecutionLimits) (env : Environment)
    (compiled : List (String × Compiled)) (turns : List Turn) (s : Tasks) : Prop where
  /-- Each permit is free or with a call that is running. -/
  permits : ∃ free, s.free = some free ∧ free + s.running = n
  /-- A task without a statement has no permit. -/
  without : ∀ t ∈ s.tasks, t.statement = none → t.phase.isRunning = false
  /-- It is over at a turn that leaves the permits as they are. -/
  skip : ∀ place s', Step limits env s (.skip place) s' → s'.free = s.free
  /-- Some task can go on, unless all are over or a call that is running cannot end. -/
  progress : ¬ s.IsOver → s.CanEnd limits env →
    ∃ turn s', turn.place?.isSome = true ∧ Step limits env s turn s'
  /-- There are not many turns. -/
  bounded : turns.length ≤ 2 * compiled.length + 1
  /-- If every call ends, all tasks are over when there are no more turns. -/
  complete : env.Ends limits compiled → (∀ turn s', ¬ Step limits env s turn s') → s.IsOver

theorem Run.lively
    (h : Run ⟨some n, timeout⟩ env (ofBatch ⟨some n, timeout⟩ begin compiled) turns s) :
    Lively (max n 1) ⟨some n, timeout⟩ env compiled turns s := by
  have hheld := h.held
  have hpos : 0 < max n 1 := by omega
  refine ⟨hheld.permits, fun t hm hnone => ?_, fun place s' hs => ?_, hheld.exists_step hpos,
    h.length_le, fun he hstuck => ?_⟩
  · by_contra hr
    have hsome := hheld.statement t hm (by simpa using hr)
    rw [hnone] at hsome
    cases hsome
  · cases hs
    rfl
  · by_contra ho
    obtain ⟨turn, s', hs⟩ := hheld.exists_step_of_ends hpos ho h.sound he
    exact hstuck turn s' hs

theorem not_forall_step (f : Nat → Tasks) :
    ¬ ∀ i, ∃ turn, Step limits env (f i) turn (f (i + 1)) := by
  intro h
  have hle : ∀ i, i + (f i).left ≤ (f 0).left := by
    intro i
    induction i with
    | zero => exact (Nat.zero_add _).le
    | succ i ih =>
      obtain ⟨turn, hs⟩ := h i
      have hlt := hs.left_lt
      omega
  have hmany := hle ((f 0).left + 1)
  omega

/-- **Permits and progress.** Whatever the limit `n` on the number of calls at once, in each state
of a run the `max n 1` permits are free or with a running call, and no state is stuck; no run goes
on for ever. A schedule, too, runs at most `max n 1` calls at once, and there is one if every call
ends. -/
theorem lively_of_limit (n : Nat) (timeout : Option Nat) (begin : Nat)
    (compiled : List (String × Compiled)) :
    (∀ env turns s,
      Run ⟨some n, timeout⟩ env (ofBatch ⟨some n, timeout⟩ begin compiled) turns s →
        Lively (max n 1) ⟨some n, timeout⟩ env compiled turns s) ∧
    (∀ env (f : Nat → Tasks), f 0 = ofBatch ⟨some n, timeout⟩ begin compiled →
      ¬ ∀ i, ∃ turn, Step ⟨some n, timeout⟩ env (f i) turn (f (i + 1))) ∧
    ∀ store cancelAt,
      ((Environment.ofStore store cancelAt).Ends ⟨some n, timeout⟩ compiled →
        (Schedule.run ⟨some n, timeout⟩ cancelAt store begin compiled).isSome = true) ∧
      ∀ settled, Schedule.run ⟨some n, timeout⟩ cancelAt store begin compiled = some settled →
        Schedule.peak settled ≤ max n 1 := by
  refine ⟨fun _ _ _ h => h.lively, fun _ f _ => not_forall_step f,
    fun store cancelAt => ⟨fun he => ?_, fun _ h => Schedule.peak_le h⟩⟩
  refine Option.isSome_iff_exists.mpr
    (Schedule.exists_runWith_eq_some _ fun c hm statement hc => ?_)
  obtain ⟨place, hplace⟩ := List.mem_iff_getElem?.mp hm
  rcases he place c statement hplace hc with ⟨outcome, hanswer, -⟩ | htimeout | hcancels
  · exact .inl hanswer
  · exact .inr (.inl htimeout)
  · exact .inr (.inr hcancels)

/-- The two queries left when the first call has broken down: one has no statement, and the call of
the other has started. -/
def twoLeft : Tasks where
  labels := threeQueries.map fun c => (c.1, c.2.shape)
  tasks := [
    ⟨some ⟨"SELECT title FROM books", []⟩,
      .settled (some (⟨"SELECT title FROM books", []⟩, ⟨0, 5, .panic "out of memory"⟩))⟩,
    ⟨none, .waiting⟩,
    ⟨some ⟨"SELECT genre FROM books", []⟩, .running 5 true⟩]
  free := some 0
  isCancelled := false
  clock := 5

/-- A limit of zero acts as one: the call that breaks down gives its permit back, and the next call
has it. The state is not stuck, and the batch can be run to its end. -/
theorem lively_of_limit_twoLeft :
    Run ⟨some 0, none⟩ (.ofStore brokenStore none) (ofBatch ⟨some 0, none⟩ 0 threeQueries)
      [.start 0 ⟨"SELECT title FROM books", []⟩ true 0,
        .finish 0 (.answered (.panic "out of memory")) 5,
        .start 2 ⟨"SELECT genre FROM books", []⟩ true 5] twoLeft ∧
    twoLeft.running = 1 ∧ ¬ twoLeft.IsOver ∧
    (∃ turn s', turn.place?.isSome = true ∧
      Step ⟨some 0, none⟩ (.ofStore brokenStore none) twoLeft turn s') ∧
    (Environment.ofStore brokenStore none).Ends ⟨some 0, none⟩ threeQueries ∧
    (Schedule.run ⟨some 0, none⟩ none brokenStore 0 threeQueries).isSome = true := by
  obtain ⟨each, -, schedule⟩ := lively_of_limit 0 none 0 threeQueries
  have hends : (Environment.ofStore brokenStore none).Ends ⟨some 0, none⟩ threeQueries :=
    fun _ _ _ _ _ => .inl ⟨_, rfl, rfl⟩
  have hrun : Run ⟨some 0, none⟩ (.ofStore brokenStore none)
      (ofBatch ⟨some 0, none⟩ 0 threeQueries)
      [.start 0 ⟨"SELECT title FROM books", []⟩ true 0,
        .finish 0 (.answered (.panic "out of memory")) 5,
        .start 2 ⟨"SELECT genre FROM books", []⟩ true 5] twoLeft :=
    .cons (.start rfl nofun (.inl rfl) le_rfl)
      (.cons (.finish rfl (.answered rfl ⟨rfl, rfl⟩) (by decide))
        (.cons (.start rfl nofun (.inl rfl) le_rfl) .nil))
  have hover : ¬ twoLeft.IsOver := by simp [IsOver, twoLeft, Task.call?]
  have hend : twoLeft.CanEnd ⟨some 0, none⟩ (.ofStore brokenStore none) := by
    intro place statement start asked ht
    match place, ht with
    | 2, rfl => exact ⟨.answered (.panic "out of memory"), .answered rfl ⟨rfl, rfl⟩⟩
  exact ⟨hrun, rfl, hover, (each _ _ _ hrun).progress hover hend, hends, (schedule _ _).1 hends⟩

end Tasks

end QueryBatch
