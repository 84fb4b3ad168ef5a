import QueryBatch.Proofs.ScheduleRun

/-! # Every query settles once, with its own result

The names of a batch and the calls of its tasks are kept in two lists and put together by place
after the tasks have ended in some order. Whatever the order was, and however the tasks ended, the
response at a place is that of the query at this place, its result is what ended the only call of
its own task, and the store has had its statement at most once.

* `Tasks.OwnResult`: a result beside what the store was asked and what ended the task.
* `Tasks.Run.exists_responses`: the responses of a run.
* `Schedule.settles_once`: **every query settles once**, in each run and in the schedule.
-/

namespace QueryBatch

/-- What settles a task at a turn: the ending of its call, or nothing if it has none. -/
def Turn.ending? : Turn → Option (Option Ending)
  | .skip _ => some none
  | .finish _ ending _ => some (some ending)
  | _ => none

namespace Tasks

/-- All that settles the task at a place. -/
def endings (place : Nat) (turns : List Turn) : List (Option Ending) :=
  (turns.filter (Turn.isOf place)).filterMap Turn.ending?

/-- **The result of a query** beside its statement, the statements that the store has had from its
task, and what has settled the task. -/
inductive OwnResult (limits : ExecutionLimits) (env : Environment) (place : Nat) :
    Option Statement → List Statement → List (Option Ending) →
      Except ExecutionError (List Row) → Prop
  | unasked : OwnResult limits env place none [] [none] (.ok [])
  | answered {statement : Statement} {outcome : Outcome}
    (h : env.answers place statement outcome) :
    OwnResult limits env place (some statement) [statement] [some (.answered outcome)]
      outcome.result
  | expired {statement : Statement} {asked : List Statement} {timeout : Nat}
    (ha : asked = [] ∨ asked = [statement]) (ht : limits.timeout = some timeout) :
    OwnResult limits env place (some statement) asked [some .expired]
      (.error (.timeout (.ofMillis timeout)))
  | cancelled {statement : Statement} {asked : List Statement}
    (ha : asked = [] ∨ asked = [statement]) (hc : env.cancels) :
    OwnResult limits env place (some statement) asked [some .cancelled] (.error .cancelled)

variable {limits : ExecutionLimits} {env : Environment} {begin : Nat}
  {compiled : List (String × Compiled)} {turns : List Turn} {s : Tasks}

theorem ownResult_of_history {place : Nat} {statement : Option Statement} {r : Settled}
    (h : (Task.mk statement (.settled r.call)).History limits env place
      (turns.filter (Turn.isOf place))) :
    OwnResult limits env place statement (asked place turns) (endings place turns) r.result := by
  unfold asked endings
  generalize turns.filter (Turn.isOf place) = own at h ⊢
  generalize hcall : r.call = call at h
  cases h with
  | skipped =>
    rw [Settled.result_of_no_call hcall]
    exact .unasked
  | @finished statement start finish isAsked _ ending hc he =>
    rw [Settled.result_of_call hcall]
    have hasked : [Turn.start place statement isAsked start, .finish place ending finish].filterMap
          Turn.asked? = [] ∨
        [Turn.start place statement isAsked start, .finish place ending finish].filterMap
          Turn.asked? = [statement] := by
      cases isAsked
      · exact .inl rfl
      · exact .inr rfl
    cases he with
    | answered ha h =>
      subst ha
      exact .answered h
    | expired h =>
      obtain ⟨timeout, ht⟩ := Option.isSome_iff_exists.mp h
      have hresult : (Ending.expired.outcome limits.timeout).result =
          .error (.timeout (.ofMillis timeout)) := by
        rw [Ending.outcome, ht]
        rfl
      rw [hresult]
      exact .expired hasked ht
    | cancelled h => exact .cancelled hasked (hc h)

/-- **The responses of a run**: as many as queries, each with the name and shape of the query at its
place, and with the result of its own task. -/
theorem Run.exists_responses (h : Run limits env (ofBatch limits begin compiled) turns s)
    (ho : s.IsOver) :
    ∃ responses, s.responses? = some responses ∧
      responses.map (fun r => (r.name, r.shape)) = compiled.map (fun c => (c.1, c.2.shape)) ∧
      ∀ (place : Nat) c r, compiled[place]? = some c → responses[place]? = some r →
        OwnResult limits env place c.2.statement (asked place turns) (endings place turns)
          r.result := by
  obtain ⟨settled, hsettled, hlength, heach⟩ := h.sound.exists_settled ho
  refine ⟨settled.map Settled.response, by rw [responses?, hsettled, Option.map_some], ?_, ?_⟩
  · refine List.ext_getElem (by simp [hlength]) fun place hl hr => ?_
    have hplace : place < settled.length := by simpa using hl
    obtain ⟨hname, hshape, -⟩ := heach place _ _
      (List.getElem?_eq_getElem (by omega)) (List.getElem?_eq_getElem hplace)
    simp only [List.getElem_map, Settled.response, hname, hshape]
  · intro place c r hc hr
    rw [List.getElem?_map] at hr
    obtain ⟨q, hq, rfl⟩ := Option.map_eq_some_iff.mp hr
    exact ownResult_of_history (heach place c q hc hq).2.2

end Tasks

open Tasks

/-- **Every query settles once, with its own result.** In each run of a batch, whatever the turns
and the endings, there is one response for each query, at its place; and the schedule of a batch is
one of its runs. -/
theorem Schedule.settles_once (limits : ExecutionLimits) (begin : Nat)
    (compiled : List (String × Compiled)) :
    (∀ env turns s, Run limits env (ofBatch limits begin compiled) turns s → s.IsOver →
      ∃ responses, s.responses? = some responses ∧
        responses.map (fun r => (r.name, r.shape)) = compiled.map (fun c => (c.1, c.2.shape)) ∧
        ∀ (place : Nat) c r, compiled[place]? = some c → responses[place]? = some r →
          OwnResult limits env place c.2.statement (asked place turns) (endings place turns)
            r.result) ∧
    ∀ store cancelAt settled, run limits cancelAt store begin compiled = some settled →
      ∃ turns s, Run limits (.ofStore store cancelAt) (ofBatch limits begin compiled) turns s ∧
        s.IsOver ∧ s.responses? = some (settled.map Settled.response) := by
  refine ⟨fun _ _ _ h ho => h.exists_responses ho, fun store cancelAt settled h => ?_⟩
  obtain ⟨turns, s, hrun, ho, hsettled⟩ := Schedule.exists_run h
  exact ⟨turns, s, hrun, ho, by rw [responses?, hsettled, Option.map_some]⟩

/-- A batch of which a query has no statement. -/
def threeQueries : List (String × Compiled) := [
  ("titles", ⟨some ⟨"SELECT title FROM books", []⟩, .search⟩),
  ("years", ⟨none, .range ⟨some "year", none, none, false, true⟩⟩),
  ("genres", ⟨some ⟨"SELECT genre FROM books", []⟩, .term "genre"⟩)]

/-- A store that breaks down on every statement. -/
def brokenStore : Store := fun _ => ⟨some 5, .panic "out of memory"⟩

/-- With one permit the first call breaks down after five milliseconds, and the second is cancelled
two milliseconds later. -/
theorem Schedule.settles_once_broken_cancelled : ∃ turns s responses,
    Run ⟨some 1, none⟩ (.ofStore brokenStore (some 7)) (ofBatch ⟨some 1, none⟩ 0 threeQueries)
      turns s ∧
    s.IsOver ∧ s.responses? = some responses ∧
    responses.map Response.name = ["titles", "years", "genres"] ∧
    responses.map Response.result =
      [.error (.failed (Settled.panicMessage "out of memory")), .ok [],
        .error .cancelled] ∧
    ∀ (place : Nat) c r, threeQueries[place]? = some c → responses[place]? = some r →
      OwnResult ⟨some 1, none⟩ (.ofStore brokenStore (some 7)) place c.2.statement
        (asked place turns) (endings place turns) r.result := by
  obtain ⟨each, schedule⟩ := settles_once ⟨some 1, none⟩ 0 threeQueries
  have hrun : ∃ settled, run ⟨some 1, none⟩ (some 7) brokenStore 0 threeQueries = some settled ∧
      settled.map Settled.name = ["titles", "years", "genres"] ∧
      settled.map Settled.result =
        [.error (.failed (Settled.panicMessage "out of memory")), .ok [],
          .error .cancelled] :=
    ⟨_, rfl, rfl, rfl⟩
  obtain ⟨settled, hsettled, hnames, hresults⟩ := hrun
  obtain ⟨turns, s, hs, ho, hresponses⟩ := schedule _ _ _ hsettled
  obtain ⟨responses, hr, -, hown⟩ := each _ _ _ hs ho
  cases hr.symm.trans hresponses
  refine ⟨turns, s, _, hs, ho, hresponses, ?_, ?_, hown⟩
  · rw [List.map_map]
    exact hnames
  · rw [List.map_map]
    exact hresults

end QueryBatch
