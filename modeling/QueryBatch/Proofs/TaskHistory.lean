import QueryBatch.Execution.Tasks
import QueryBatch.Proofs.Outcome

/-! # What becomes of each task

Whatever the order of the turns, those of one task are always the same few: none, or the one at
which a task without a statement is over, or the start of a call and then its end. What a task has
come to is decided by its own turns alone, and the queries and their calls are put together by
place.

* `Outcome.result`: the rows of a call or its error, which are the result of its query.
* `Task.History`: a task beside its own turns. `Tasks.Sound`: all tasks beside a run.
* `Tasks.Run.sound`: **every run is sound**.
* `Tasks.Sound.exists_settled_tasks`, `Tasks.Sound.exists_settled`: when all tasks are over, each
  query has the call of its task and is settled by its own turns.
-/

namespace QueryBatch

open Outcome

/-! ### Results -/

/-- The rows of a call or its error. -/
def Outcome.result : Outcome → Except ExecutionError (List Row)
  | .rows found => .ok found
  | .error e => .error e
  | .panic message => .error (.failed (Settled.panicMessage message))

theorem Settled.result_of_call {r : Settled} {statement : Statement} {call : Call}
    (h : r.call = some (statement, call)) : r.result = call.outcome.result := by
  unfold result
  rw [h]
  dsimp only
  cases call.outcome <;> rfl

theorem Settled.result_of_no_call {r : Settled} (h : r.call = none) : r.result = .ok [] := by
  unfold result
  rw [h]

/-! ### Histories -/

/-- **A task beside its own turns.** -/
inductive Task.History (limits : ExecutionLimits) (env : Environment) (place : Nat) :
    Task → List Turn → Prop
  | waiting (statement : Option Statement) : History limits env place ⟨statement, .waiting⟩ []
  | skipped : History limits env place ⟨none, .settled none⟩ [.skip place]
  | running {statement : Statement} {start : Nat} {asked : Bool} :
    History limits env place ⟨some statement, .running start asked⟩
      [.start place statement asked start]
  | finished {statement : Statement} {start finish : Nat} {asked isCancelled : Bool}
    {ending : Ending} (hc : isCancelled = true → env.cancels)
    (he : env.MayEnd limits isCancelled place statement asked ending) :
    History limits env place
      ⟨some statement,
        .settled (some (statement, ⟨start, finish, ending.outcome limits.timeout⟩))⟩
      [.start place statement asked start, .finish place ending finish]

namespace Tasks

variable {limits : ExecutionLimits} {env : Environment} {begin : Nat}
  {compiled : List (String × Compiled)} {turns : List Turn} {turn : Turn} {s s' : Tasks}

/-- **All tasks beside the turns that were taken.** -/
structure Sound (limits : ExecutionLimits) (env : Environment)
    (compiled : List (String × Compiled)) (turns : List Turn) (s : Tasks) : Prop where
  labels : s.labels = compiled.map fun c => (c.1, c.2.shape)
  statements : s.tasks.map Task.statement = compiled.map fun c => c.2.statement
  cancelled : s.isCancelled = true → env.cancels
  history : ∀ (place : Nat) (t : Task), s.tasks[place]? = some t →
    t.History limits env place (turns.filter (Turn.isOf place))

/-! ### The start and the turns -/

theorem sound_ofBatch : Sound limits env compiled [] (ofBatch limits begin compiled) := by
  refine ⟨rfl, ?_, fun h => (Bool.false_ne_true h).elim, fun place t h => ?_⟩
  · simp [ofBatch]
  · obtain ⟨c, -, rfl⟩ : ∃ c, compiled[place]? = some c ∧ ⟨c.2.statement, .waiting⟩ = t := by
      simpa [ofBatch] using h
    exact .waiting _

theorem map_statement_set {tasks : List Task} {place : Nat} {statement : Option Statement}
    {phase : Phase} (ht : tasks[place]? = some ⟨statement, phase⟩) (phase' : Phase) :
    (tasks.set place ⟨statement, phase'⟩).map Task.statement = tasks.map Task.statement := by
  refine List.ext_getElem? fun i => ?_
  rw [List.map_set, List.getElem?_set']
  split
  · next h =>
    subst h
    rw [List.getElem?_map, ht]
    rfl
  · rfl

theorem history_set {tasks : List Task} {place : Nat} {t t' : Task}
    (ht : tasks[place]? = some t) (hturn : turn.place? = some place)
    (h : ∀ (i : Nat) (u : Task), tasks[i]? = some u →
      u.History limits env i (turns.filter (Turn.isOf i)))
    (hnew : t.History limits env place (turns.filter (Turn.isOf place)) →
      t'.History limits env place (turns.filter (Turn.isOf place) ++ [turn])) :
    ∀ (i : Nat) (u : Task), (tasks.set place t')[i]? = some u →
      u.History limits env i ((turns ++ [turn]).filter (Turn.isOf i)) := by
  intro i u hu
  rw [List.filter_append]
  by_cases hi : place = i
  · subst hi
    rw [List.getElem?_set_self (List.getElem?_eq_some_iff.mp ht).1] at hu
    cases hu
    have hone : [turn].filter (Turn.isOf place) = [turn] := by simp [Turn.isOf, hturn]
    rw [hone]
    exact hnew (h place t ht)
  · have hnone : [turn].filter (Turn.isOf i) = [] := by simp [Turn.isOf, hturn, hi]
    rw [hnone, List.append_nil]
    rw [List.getElem?_set_ne hi] at hu
    exact h i u hu

/-- **A turn keeps what is sound.** -/
theorem Sound.step (h : Sound limits env compiled turns s) (hs : Step limits env s turn s') :
    Sound limits env compiled (turns ++ [turn]) s' := by
  obtain ⟨hlabels, hstatements, hcancelled, hhistory⟩ := h
  cases hs with
  | cancel he =>
    refine ⟨hlabels, hstatements, fun _ => he, fun i u hu => ?_⟩
    rw [List.filter_append]
    simpa [Turn.isOf, Turn.place?] using hhistory i u hu
  | skip ht =>
    refine ⟨hlabels, (map_statement_set ht _).trans hstatements, hcancelled,
      history_set ht rfl hhistory fun h => ?_⟩
    generalize turns.filter (Turn.isOf _) = own at h ⊢
    cases h
    exact .skipped
  | start ht =>
    refine ⟨hlabels, (map_statement_set ht _).trans hstatements, hcancelled,
      history_set ht rfl hhistory fun h => ?_⟩
    generalize turns.filter (Turn.isOf _) = own at h ⊢
    cases h
    exact .running
  | finish ht he =>
    refine ⟨hlabels, (map_statement_set ht _).trans hstatements, hcancelled,
      history_set ht rfl hhistory fun h => ?_⟩
    generalize turns.filter (Turn.isOf _) = own at h ⊢
    cases h
    exact .finished hcancelled he

/-- **Every run is sound.** -/
theorem Run.sound (h : Run limits env (ofBatch limits begin compiled) turns s) :
    Sound limits env compiled turns s := by
  induction h with
  | nil => exact sound_ofBatch
  | snoc _ hs ih => exact ih.step hs

/-! ### The settled queries -/

theorem exists_calls {tasks : List Task} (h : ∀ t ∈ tasks, t.call?.isSome = true) :
    ∃ calls, List.Forall₂ (fun (t : Task) call => t.call? = some call) tasks calls := by
  induction tasks with
  | nil => exact ⟨[], .nil⟩
  | cons t r ih =>
    obtain ⟨call, hcall⟩ := Option.isSome_iff_exists.mp (h t List.mem_cons_self)
    obtain ⟨calls, hcalls⟩ := ih fun u hu => h u (List.mem_cons_of_mem t hu)
    exact ⟨call :: calls, .cons hcall hcalls⟩

/-- **When all tasks are over**, there is a settled query for each query, at its place, with its
name and shape and with the call of its task. -/
theorem Sound.exists_settled_tasks (h : Sound limits env compiled turns s) (ho : s.IsOver) :
    ∃ settled, s.settled? = some settled ∧ settled.length = compiled.length ∧
      ∀ (place : Nat) c r, compiled[place]? = some c → settled[place]? = some r →
        r.name = c.1 ∧ r.shape = c.2.shape ∧
          s.tasks[place]? = some ⟨c.2.statement, .settled r.call⟩ := by
  obtain ⟨calls, hcalls⟩ := exists_calls ho
  have hlength : s.tasks.length = compiled.length := by
    simpa using congrArg List.length h.statements
  refine ⟨_, by rw [settled?, mapM_eq_some.mpr hcalls, Option.map_some], ?_, ?_⟩
  · rw [List.length_zipWith, h.labels, List.length_map, ← hcalls.length_eq, hlength, Nat.min_self]
  · intro place c r hc hr
    obtain ⟨label, call, hlabel, hcall, rfl⟩ := List.getElem?_zipWith_eq_some.mp hr
    rw [h.labels, List.getElem?_map, hc] at hlabel
    cases hlabel
    refine ⟨rfl, rfl, ?_⟩
    obtain ⟨hplace', rfl⟩ := List.getElem?_eq_some_iff.mp hcall
    have hplace : place < s.tasks.length := hcalls.length_eq ▸ hplace'
    have hphase := Task.call?_eq_some_iff.mp (hcalls.get hplace hplace')
    have hstatement : s.tasks[place].statement = c.2.statement := by
      have heq := congrArg (fun l => l[place]?) h.statements
      simpa [hc, List.getElem?_eq_getElem hplace] using heq
    have htask : s.tasks[place] = ⟨c.2.statement, .settled calls[place]⟩ := by
      rw [← hstatement]
      exact congrArg (Task.mk _) hphase
    exact htask ▸ List.getElem?_eq_getElem hplace

theorem Sound.exists_settled (h : Sound limits env compiled turns s) (ho : s.IsOver) :
    ∃ settled, s.settled? = some settled ∧ settled.length = compiled.length ∧
      ∀ (place : Nat) c r, compiled[place]? = some c → settled[place]? = some r →
        r.name = c.1 ∧ r.shape = c.2.shape ∧
          (Task.mk c.2.statement (.settled r.call)).History limits env place
            (turns.filter (Turn.isOf place)) := by
  obtain ⟨settled, hsettled, hlength, heach⟩ := h.exists_settled_tasks ho
  refine ⟨settled, hsettled, hlength, fun place c r hc hr => ?_⟩
  obtain ⟨hname, hshape, htask⟩ := heach place c r hc hr
  exact ⟨hname, hshape, h.history place _ htask⟩

end Tasks

end QueryBatch
