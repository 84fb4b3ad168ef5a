import QueryBatch.Engine.Course
import QueryBatch.Proofs.EmbeddingPartition
import QueryBatch.Proofs.TimedRun

/-! # What is recorded in the course of a batch

What is recorded at the turns of some fetches, or of some tasks, depends on their order. But at each
moment it is, up to the order, what those tell that have ended: a turn that ends one of them
adds what that one tells, and other turns add nothing. So what is recorded of a batch can be read
off its fetches and its settled queries.

* `Fetching.Run.perm_events`, `Tasks.Recording.perm_events`: **at each moment of a run**.
* `Engine.Fetches.perm_events`, `Tasks.Recording.perm_settled`: **what has been recorded when all
  have ended.**
* `Engine.exists_course`: **every answer of `Engine.query` comes in one of the ways in which the
  batch may go**.
-/

namespace QueryBatch

open Outcome

theorem filterMap_singleton {α β : Type} (f : α → Option β) (a : α) :
    [a].filterMap f = (f a).toList := by
  rw [List.filterMap_cons]
  cases f a <;> rfl

theorem flatMap_eq_of_forall₂ {α β γ : Type} {R : α → β → Prop} {f : α → List γ} {g : β → List γ}
    {l : List α} {m : List β} (h : List.Forall₂ R l m) (hfg : ∀ a b, R a b → f a = g b) :
    l.flatMap f = m.flatMap g := by
  induction h with
  | nil => rfl
  | cons hab _ ih => rw [List.flatMap_cons, List.flatMap_cons, hfg _ _ hab, ih]

theorem zip_set {α β : Type} {l : List α} {m : List β} {i : Nat} {a : α} (h : l[i]? = some a)
    (b : β) : l.zip (m.set i b) = (l.zip m).set i (a, b) := by
  induction l generalizing m i with
  | nil => cases h
  | cons x l ih =>
    cases m with
    | nil => rfl
    | cons y m =>
      cases i with
      | zero =>
        cases h
        rfl
      | succ i => rw [List.set_cons_succ, List.zip_cons_cons, ih h]; rfl

theorem perm_flatMap_set {α β : Type} {f : α → List β} {l : List α} {i : Nat} {a : α}
    (h : l[i]? = some a) (ha : f a = []) (b : α) :
    ((l.set i b).flatMap f).Perm (l.flatMap f ++ f b) := by
  obtain ⟨hi, rfl⟩ := List.getElem?_eq_some_iff.mp h
  have hnew := (List.set_perm_cons_eraseIdx hi b).flatMap_right f
  have hold := (List.getElem_cons_eraseIdx_perm hi).flatMap_right f
  rw [List.flatMap_cons, ha, List.nil_append] at hold
  rw [List.flatMap_cons] at hnew
  exact hnew.trans (List.perm_append_comm.trans (hold.append_right _))

/-! ### Fetches -/

/-- What is recorded of a fetch that has ended. -/
def FetchTask.events (t : FetchTask) : List Metrics.Event :=
  (t.fetch?.map EmbeddingStage.eventOf).toList

namespace Fetching

variable {timeout : Option Nat} {env : FetchEnvironment} {wanted : List (String × String)}
  {turns : List FetchTurn} {turn : FetchTurn} {s s' : Fetching}

theorem Step.perm_events (h : Step timeout env s turn s') :
    (s'.tasks.flatMap FetchTask.events).Perm
      (s.tasks.flatMap FetchTask.events ++ (turn.event? timeout).toList) := by
  cases h with
  | cancel => exact .of_eq (List.append_nil _).symm
  | ask ht => exact perm_flatMap_set ht rfl _
  | finish ht => exact perm_flatMap_set ht rfl _

/-- **At each moment of a run** it is recorded what the fetches tell that have ended. -/
theorem Run.perm_events (h : Run timeout env (ofWanted wanted) turns s) :
    (turns.filterMap (FetchTurn.event? timeout)).Perm (s.tasks.flatMap FetchTask.events) := by
  induction h with
  | nil =>
    refine .of_eq (List.flatMap_eq_nil_iff.mpr fun t ht => ?_).symm
    obtain ⟨w, -, rfl⟩ := List.mem_map.mp ht
    rfl
  | snoc _ hs ih =>
    rw [List.filterMap_append, filterMap_singleton]
    exact (ih.append_right _).trans hs.perm_events.symm

theorem isOver_of_stage? {stage : EmbeddingStage} (h : s.stage? = some stage) : s.IsOver := by
  obtain ⟨fetches, hfetches, -⟩ := Option.map_eq_some_iff.mp h
  intro t ht
  obtain ⟨f, -, hf⟩ := exists_of_forall₂_left (mapM_eq_some.mp hfetches) ht
  rw [hf]
  rfl

theorem events_of_stage? {stage : EmbeddingStage} (h : s.stage? = some stage) :
    s.tasks.flatMap FetchTask.events = stage.events := by
  obtain ⟨fetches, hfetches, rfl⟩ := Option.map_eq_some_iff.mp h
  rw [EmbeddingStage.events, if_pos rfl, List.map_eq_flatMap]
  exact flatMap_eq_of_forall₂ (mapM_eq_some.mp hfetches) fun t f hf => by
    rw [FetchTask.events, hf]
    rfl

end Fetching

/-! ### Calls -/

/-- What is recorded of the call of a query, if it has ended. -/
def Task.events (label : String × Shape) (t : Task) : List Metrics.Event :=
  match t.call? with
  | some call => Settled.executedEvents ⟨label.1, label.2, call⟩
  | none => []

namespace Tasks

variable {limits : ExecutionLimits} {env : Environment} {begin : Nat}
  {compiled : List (String × Compiled)} {turns : List Turn} {turn : Turn}
  {events : List Metrics.Event} {s s' s'' : Tasks}

/-- What is recorded of all calls that have ended. -/
def executedEvents (s : Tasks) : List Metrics.Event :=
  (s.labels.zip s.tasks).flatMap fun p => p.2.events p.1

theorem Recording.run (h : Recording limits env s turns events s') : Run limits env s turns s' := by
  induction h with
  | nil => exact .nil
  | snoc _ hs ih => exact ih.snoc hs

/-- **Of every run something is recorded**, if only nothing. -/
theorem Run.exists_recording (h : Run limits env s turns s') :
    ∃ events, Recording limits env s turns events s' := by
  induction h with
  | nil => exact ⟨[], .nil⟩
  | snoc _ hs ih =>
    obtain ⟨events, hrec⟩ := ih
    exact ⟨_, hrec.snoc hs⟩

theorem perm_executedEvents_set {place : Nat} {label : String × Shape} {t u : Task}
    {added : List Metrics.Event} (hl : s.labels[place]? = some label)
    (ht : s.tasks[place]? = some t) (hover : t.call? = none) (hu : u.events label = added)
    (hlabels : s'.labels = s.labels) (htasks : s'.tasks = s.tasks.set place u) :
    s'.executedEvents.Perm (s.executedEvents ++ added) := by
  have hp : (s.labels.zip s.tasks)[place]? = some (label, t) :=
    List.getElem?_zip_eq_some.mpr ⟨hl, ht⟩
  rw [executedEvents, hlabels, htasks, zip_set hl, ← hu]
  refine perm_flatMap_set hp ?_ (label, u)
  rw [Task.events, hover]

/-- **A turn adds what is recorded at it.** -/
theorem Step.perm_events (h : Step limits env s turn s')
    (hlength : s.labels.length = s.tasks.length) :
    s'.executedEvents.Perm (s.executedEvents ++ s.recorded limits turn) := by
  have hlabel : ∀ {place : Nat} {t : Task}, s.tasks[place]? = some t →
      ∃ label, s.labels[place]? = some label := fun ht =>
    ⟨_, List.getElem?_eq_getElem (hlength ▸ (List.getElem?_eq_some_iff.mp ht).1)⟩
  cases h with
  | cancel => exact .of_eq (List.append_nil _).symm
  | skip ht =>
    obtain ⟨label, hl⟩ := hlabel ht
    exact perm_executedEvents_set hl ht rfl rfl rfl rfl
  | start ht =>
    obtain ⟨label, hl⟩ := hlabel ht
    exact perm_executedEvents_set hl ht rfl rfl rfl rfl
  | finish ht =>
    obtain ⟨label, hl⟩ := hlabel ht
    rw [recorded, hl, ht]
    exact perm_executedEvents_set hl ht rfl rfl rfl rfl

theorem Run.length_labels (h : Run limits env (ofBatch limits begin compiled) turns s) :
    s.labels.length = s.tasks.length := by
  have hsound := h.sound
  have hstatements := congrArg List.length hsound.statements
  rw [List.length_map, List.length_map] at hstatements
  rw [hsound.labels, List.length_map, hstatements]

/-- **At each moment of a run** it is recorded what the calls tell that have ended. -/
theorem Recording.perm_events
    (h : Recording limits env (ofBatch limits begin compiled) turns events s) :
    events.Perm s.executedEvents := by
  induction h with
  | nil =>
    refine .of_eq (List.flatMap_eq_nil_iff.mpr fun p hp => ?_).symm
    obtain ⟨c, -, hc⟩ := List.mem_map.mp (List.of_mem_zip hp).2
    rw [← hc]
    rfl
  | snoc h hs ih =>
    exact (ih.append_right _).trans (hs.perm_events h.run.length_labels).symm

theorem isOver_of_settled? {settled : List Settled} (h : s.settled? = some settled) :
    s.IsOver := by
  obtain ⟨calls, hcalls, -⟩ := Option.map_eq_some_iff.mp h
  intro t ht
  obtain ⟨call, -, hcall⟩ := exists_of_forall₂_left (mapM_eq_some.mp hcalls) ht
  rw [hcall]
  rfl

theorem executedEvents_of_settled? {settled : List Settled} (h : s.settled? = some settled) :
    s.executedEvents = settled.flatMap Settled.executedEvents := by
  obtain ⟨calls, hcalls, rfl⟩ := Option.map_eq_some_iff.mp h
  rw [mapM_eq_some] at hcalls
  unfold executedEvents
  clear h
  generalize s.labels = labels, s.tasks = tasks at hcalls
  induction hcalls generalizing labels with
  | nil => simp
  | @cons t call _ _ hcall _ ih =>
    cases labels with
    | nil => rfl
    | cons label labels =>
      rw [List.zip_cons_cons, List.zipWith_cons_cons, List.flatMap_cons, List.flatMap_cons, ih,
        Task.events, hcall]

/-- **What has been recorded when all tasks are over** is what their settled queries tell. -/
theorem Recording.perm_settled {settled : List Settled}
    (h : Recording limits env (ofBatch limits begin compiled) turns events s)
    (hs : s.settled? = some settled) :
    events.Perm (settled.flatMap Settled.executedEvents) :=
  executedEvents_of_settled? hs ▸ h.perm_events

end Tasks

/-! ### Batches -/

namespace EmbeddingStage

theorem isFor_unavailable (ds : List Descriptor) :
    IsFor ⟨(wanted ds).map fun w => .unavailable w.1 w.2, false⟩ false ds :=
  isFor_of_run (show run none none none ds = some _ from rfl)

theorem le_took (s : EmbeddingStage) {f : Fetch} (hf : f ∈ s.fetches) : f.took ≤ s.took := by
  have hfold : ∀ t m, s.fetches.foldl (fun t f => max t f.took) t ≤ m ↔
      t ≤ m ∧ ∀ f ∈ s.fetches, f.took ≤ m := by
    induction s.fetches with
    | nil => simp
    | cons g r ih =>
      intro t m
      rw [List.foldl_cons, ih, List.forall_mem_cons, Nat.max_le, and_assoc]
  exact ((hfold 0 _).mp le_rfl).2 f hf

end EmbeddingStage

namespace Engine

variable {settings : Settings} {hasService : Bool} {fetchEnv : FetchEnvironment}
  {env : Environment} {batch : List Json} {readings : Readings} {timeout : Option Nat}
  {fetching : Nat} {ds : List Descriptor} {stage : EmbeddingStage} {events : List Metrics.Event}

theorem Fetches.isFor (h : Fetches timeout fetchEnv fetching ds hasService stage events) :
    stage.IsFor hasService ds := by
  cases h with
  | unavailable => exact EmbeddingStage.isFor_unavailable ds
  | fetched hr hs _ =>
    obtain ⟨_, hs', hasked, htexts, -⟩ := hr.exists_stage (Fetching.isOver_of_stage? hs)
    cases hs.symm.trans hs'
    exact ⟨htexts, hasked, nofun⟩

/-- **What has been recorded when all fetches have ended** is what they tell. -/
theorem Fetches.perm_events (h : Fetches timeout fetchEnv fetching ds hasService stage events) :
    events.Perm stage.events := by
  cases h with
  | unavailable => exact .refl _
  | fetched hr hs _ => exact Fetching.events_of_stage? hs ▸ hr.perm_events

theorem exists_fetches {embedder : Option Embedder} {cancelAt : Option Nat}
    (h : EmbeddingStage.run embedder timeout cancelAt ds = some stage) :
    ∃ fetchEnv events, Fetches timeout fetchEnv stage.took ds embedder.isSome stage events := by
  cases embedder with
  | none =>
    cases h
    exact ⟨⟨fun _ _ _ => False, False⟩, _, .unavailable⟩
  | some e =>
    obtain ⟨turns, s, hrun, -, hs⟩ := EmbeddingStage.exists_run_of_run h
    exact ⟨_, _, .fetched hrun hs fun f hf => stage.le_took hf⟩

end Engine

/-- The readings of the clock for an answer of which nothing but fetches and calls takes time. -/
def Answer.readings (a : Answer) : Readings where
  begun := 0
  fetched := a.fetches.took
  dispatched := a.fetches.took
  settled := Schedule.finish a.fetches.took a.settled
  ended := Schedule.finish a.fetches.took a.settled
  begun_le_fetched := Nat.zero_le _
  fetched_le_dispatched := le_rfl
  dispatched_le_settled := Schedule.begin_le_finish _ _
  settled_le_ended := le_rfl

namespace Engine

variable {settings : Settings} {embedder : Option Embedder} {store : Store}
  {cancelAt : Option Nat} {batch : List Json} {a : Answer}

/-- **Every answer to a batch comes in one of the ways in which the batch may go.** -/
theorem exists_course (h : query settings embedder store cancelAt batch = some a) :
    ∃ fetchEnv, Course settings embedder.isSome fetchEnv (.ofStore store cancelAt) batch
      a.readings a := by
  unfold query at h
  cases hb : Batch.accept batch with
  | error r =>
    rw [hb] at h
    cases h
    exact ⟨⟨fun _ _ _ => False, False⟩, .rejected hb⟩
  | ok ds =>
    rw [hb] at h
    obtain ⟨stage, hstage, h⟩ := Option.bind_eq_some_iff.mp h
    obtain ⟨fetchEnv, fetchEvents, hfetches⟩ := exists_fetches hstage
    have hfetched := hfetches.perm_events
    cases hc : compileAll settings stage (executed ds) with
    | error e =>
      rw [hc] at h
      cases h
      exact ⟨fetchEnv, .uncompiled hb hfetches hc hfetched.symm⟩
    | ok compiled =>
      rw [hc] at h
      obtain ⟨settled, hsettled, h⟩ := Option.bind_eq_some_iff.mp h
      cases h
      obtain ⟨turns, s, hrun, ho, hs⟩ := Schedule.exists_timedRun hsettled
      obtain ⟨_, hs', -, hclock, -⟩ := hrun.exists_prompt ho
      cases hs.symm.trans hs'
      obtain ⟨taskEvents, hrecording⟩ := hrun.run.exists_recording
      rw [envelope_eq_envelopeIn]
      refine ⟨fetchEnv, .served hb hfetches hc hrecording hs hclock.le ?_⟩
      -- the events of each query are told apart into those of its call and those of its failure
      have hevents : (settled.flatMap Settled.events).Perm
          (taskEvents ++ settled.flatMap Settled.failureEvents) :=
        (List.flatMap_append_perm settled _ _).symm.trans
          ((hrecording.perm_settled hs).symm.append_right _)
      rw [batchEvents, List.append_assoc fetchEvents]
      exact (hfetched.symm.append hevents).append_right _

end Engine

end QueryBatch
