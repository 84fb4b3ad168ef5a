import QueryBatch.Proofs.Entries
import QueryBatch.Proofs.Recorded
import QueryBatch.Proofs.Tally
import QueryBatch.Proofs.Timings

/-! # The metrics account for every batch

A call of the engine translates a batch or queries it. What is recorded of it can be read off what
it has come to: one event for each fetch that was made, one for each call of a statement, one more
if that has failed, one for the batch if it is answered, and one if it is rejected. So the metrics
after any calls, in whichever order their events have been recorded, are the sums of what the calls
have come to.

* `Visit`, `Visit.Occurs`: the calls of the engine that may occur.
* `Visit.IsRecorded`, `Visit.Occurs.isRecorded`: **what is recorded of a call.**
* `Visit.total_eq_counted`: **what a counter counts of some calls**.
* `Accounts`: **the metrics account for some calls.**
* `Engine.accounts_exact`: **they do, after any calls that may occur.**
-/

namespace QueryBatch

open Metrics (Counter Event Histogram total observed)

/-! ### Lists -/

section Lists

variable {α β γ : Type}

theorem countP_flatMap_eq {p : β → Bool} {q : α → Bool} {f : α → List β} {l : List α}
    (h : ∀ a ∈ l, (f a).countP p = (q a).toNat) : (l.flatMap f).countP p = l.countP q := by
  induction l with
  | nil => rfl
  | cons a r ih =>
    rw [List.flatMap_cons, List.countP_append, List.countP_cons, h a List.mem_cons_self,
      ih fun b hb => h b (List.mem_cons_of_mem a hb)]
    cases q a
    · exact Nat.zero_add _
    · exact Nat.add_comm _ _

theorem countP_eq_of_forall₂ {R : α → β → Prop} {p : α → Bool} {q : β → Bool}
    {l : List α} {m : List β} (h : List.Forall₂ R l m) (hpq : ∀ a b, R a b → p a = q b) :
    l.countP p = m.countP q := by
  induction h with
  | nil => rfl
  | cons hab _ ih => rw [List.countP_cons, List.countP_cons, hpq _ _ hab, ih]

theorem forall₂_flatMap {R : β → γ → Prop} {f : α → List β} {g : α → List γ}
    {l : List α} (h : ∀ a ∈ l, List.Forall₂ R (f a) (g a)) :
    List.Forall₂ R (l.flatMap f) (l.flatMap g) := by
  induction l with
  | nil => exact .nil
  | cons a r ih =>
    rw [List.flatMap_cons, List.flatMap_cons]
    exact List.rel_append (h a List.mem_cons_self) (ih fun b hb => h b (List.mem_cons_of_mem a hb))

theorem flatMap_ite_singleton (p : α → Bool) (f : α → β) (l : List α) :
    (l.flatMap fun a => if p a then [f a] else []) = (l.filter p).map f := by
  induction l with
  | nil => rfl
  | cons a r ih =>
    rw [List.flatMap_cons, List.filter_cons, ih]
    cases p a <;> rfl

end Lists

/-! ### Fetches and queries that are counted -/

/-- A counter counts a fetch. -/
def Fetch.isCounted : Counter → Fetch → Bool
  | .requests success => fun f => success = f.result.isOk
  | _ => fun _ => false

/-- A query with a label has a statement. -/
def isRun (label : String) (c : String × Compiled) : Bool :=
  c.2.statement.isSome && label = c.2.shape.label

namespace Settled

/-- The statement of a query with a label was run. -/
def wasRun (label : String) (r : Settled) : Bool := r.call.isSome && label = r.shape.label

/-- It was run and has ended with an error, at the deadline or by the cancellation. -/
def hasFailed (label : String) (r : Settled) : Bool := r.wasRun label && !r.result.isOk

/-- A counter counts the call of a query. -/
def isCounted : Counter → Settled → Bool
  | .executed label => wasRun label
  | _ => fun _ => false

/-- A counter counts the failure of a query. -/
def isCountedFailed : Counter → Settled → Bool
  | .failed label => hasFailed label
  | _ => fun _ => false

/-- The call of a query, if it has one, has not broken down. -/
def IsCalm (r : Settled) : Prop := ∀ c ∈ r.call, ∀ message, c.2.outcome ≠ .panic message

variable {r : Settled}

theorem executedEvents_eq (h : r.IsCalm) : r.executedEvents =
    (r.call.map fun _ => Event.query r.shape.label (Duration.ofMillis r.took).inMillis).toList := by
  unfold executedEvents
  rcases hc : r.call with _ | ⟨statement, call⟩
  · rfl
  · dsimp only
    split
    · next message ho => exact absurd ho (h _ hc message)
    · rfl

theorem failureEvents_eq : r.failureEvents =
    if r.result.isOk then [] else [Event.queryFailure r.shape.label] := by
  unfold failureEvents
  cases r.result <;> rfl

theorem hasFailed_eq (label : String) :
    r.hasFailed label = (!r.result.isOk && decide (label = r.shape.label)) := by
  rcases hc : r.call with _ | call
  · simp [hasFailed, wasRun, hc, result_of_no_call hc, Except.isOk, Except.toBool]
  · simp [hasFailed, wasRun, hc, Bool.and_comm]

theorem countP_executedEvents (h : r.IsCalm) (c : Counter) :
    r.executedEvents.countP c.counts = (r.isCounted c).toNat := by
  rw [executedEvents_eq h]
  cases c <;> rcases hc : r.call with _ | call <;>
    simp [Counter.counts, isCounted, wasRun, hc, Bool.toNat, List.countP_singleton]

theorem countP_failureEvents (c : Counter) :
    r.failureEvents.countP c.counts = (r.isCountedFailed c).toNat := by
  rw [failureEvents_eq]
  cases c <;> cases hr : r.result.isOk <;>
    simp [Counter.counts, isCountedFailed, hasFailed_eq, hr, Bool.toNat, List.countP_singleton]

end Settled

theorem Fetch.countP_eventOf (f : Fetch) (c : Counter) :
    [EmbeddingStage.eventOf f].countP c.counts = (f.isCounted c).toNat := by
  cases c <;> simp [EmbeddingStage.eventOf, Counter.counts, isCounted, Bool.toNat,
    List.countP_singleton]

theorem Tasks.Run.isCalm_of_settled? {limits : ExecutionLimits} {env : Environment} {begin : Nat}
    {compiled : List (String × Compiled)} {turns : List Turn} {s : Tasks}
    {settled : List Settled} (h : Run limits env (ofBatch limits begin compiled) turns s)
    (hs : s.settled? = some settled) (he : env.IsCalm) : ∀ r ∈ settled, r.IsCalm := by
  intro r hr c hc message
  obtain ⟨_, hs', hlength, heach⟩ := h.sound.exists_settled (isOver_of_settled? hs)
  cases hs.symm.trans hs'
  obtain ⟨place, q, hq, hplace⟩ := Schedule.exists_place hlength hr
  obtain ⟨-, -, hhistory⟩ := heach place q r hq hplace
  rw [Option.mem_def.mp hc] at hhistory
  generalize turns.filter (Turn.isOf place) = own at hhistory
  generalize q.2.statement = statement at hhistory
  cases hhistory with
  | finished _ hend =>
    cases hend with
    | answered _ ho =>
      rintro rfl
      exact he _ _ _ ho
    | expired | cancelled => exact nofun

/-! ### Calls of the engine -/

namespace Engine

/-- **A call of the engine**: a batch that is translated, or queried and answered. -/
inductive Visit
  | translated (batch : List Json)
  | queried (batch : List Json) (answer : Answer)

namespace Visit

/-- What is recorded of a call. -/
def events (settings : Settings) : Visit → List Event
  | .translated batch => (translate settings batch).events
  | .queried _ a => a.events

def error? (settings : Settings) : Visit → Option EngineError
  | .translated batch =>
    match (translate settings batch).result with
    | .ok _ => none
    | .error e => some e
  | .queried _ a =>
    match a.result with
    | .ok _ => none
    | .error e => some e

/-- A call is rejected by the validation. -/
def isRejected (settings : Settings) (v : Visit) : Bool :=
  match v.error? settings with
  | some (.validation _) => true
  | _ => false

/-- A query is answered with an envelope. -/
def isAnswered : Visit → Bool
  | .translated _ => false
  | .queried _ a => a.result.isOk

/-- The descriptors of a call that take part. -/
def executable : Visit → List Descriptor
  | .translated batch | .queried batch _ =>
    match Batch.accept batch with
    | .ok ds => executed ds
    | .error _ => []

def made : Visit → List Fetch
  | .translated _ => []
  | .queried _ a => if a.fetches.isAsked then a.fetches.fetches else []

/-- The vectors that could not be fetched. -/
def failures : Visit → List (String × EmbeddingError)
  | .translated _ => []
  | .queried _ a => a.fetches.failures

/-- The compiled queries that were handed over to be run. -/
def dispatched (settings : Settings) : Visit → List (String × Compiled)
  | .translated _ => []
  | .queried batch a =>
    match compileAll settings a.fetches (Visit.queried batch a).executable with
    | .ok compiled => compiled
    | .error _ => []

/-- What has become of them. -/
def settled : Visit → List Settled
  | .translated _ => []
  | .queried _ a => a.settled

/-- **The calls that may occur.** A query may go in any way in which no statement breaks down. -/
inductive Occurs (settings : Settings) (hasService : Bool) : Visit → Prop
  | translated (batch : List Json) : Occurs settings hasService (.translated batch)
  | queried {batch : List Json} {fetchEnv : FetchEnvironment} {env : Environment}
    {readings : Readings} {a : Answer} (he : env.IsCalm)
    (h : Course settings hasService fetchEnv env batch readings a) :
    Occurs settings hasService (.queried batch a)

/-- **What is recorded of a call**, up to the order. -/
structure IsRecorded (settings : Settings) (hasService : Bool) (v : Visit) : Prop where
  settles : List.Forall₂ Settled.IsOf (v.dispatched settings) v.settled
  calm : ∀ r ∈ v.settled, r.IsCalm
  events : ∃ millis, (v.events settings).Perm (v.made.map EmbeddingStage.eventOf ++
    v.settled.flatMap Settled.executedEvents ++ v.settled.flatMap Settled.failureEvents ++
    (if v.isAnswered then [.batch millis v.settled.length] else []) ++
    if v.isRejected settings then [.rejection] else [])
  unasked : hasService = false → v.made = []
  sizes : v.isAnswered = true → v.executable.length = v.failures.length + v.settled.length
  uncompiled : ∀ e, v.error? settings = some (.compile e) →
    v.settled = [] ∧ v.isAnswered = false ∧ v.isRejected settings = false

variable {settings : Settings} {hasService : Bool} {v : Visit} {visits : List Visit}
  {events : List Event}

theorem translate_cases (settings : Settings) (batch : List Json) :
    (∃ r, translate settings batch = ⟨.error (.validation r), [.rejection]⟩) ∨
    (∃ e, translate settings batch = ⟨.error (.compile e), []⟩) ∨
    ∃ compiled, translate settings batch = ⟨.ok compiled, []⟩ := by
  unfold translate
  cases Batch.accept batch with
  | error r => exact .inl ⟨r, rfl⟩
  | ok ds =>
    dsimp only
    cases translateAll settings ds with
    | error e => exact .inr (.inl ⟨e, rfl⟩)
    | ok compiled => exact .inr (.inr ⟨_, rfl⟩)

theorem isRecorded_translated (batch : List Json) :
    IsRecorded settings hasService (.translated batch) := by
  refine ⟨.nil, List.forall_mem_nil _, ⟨.zero, ?_⟩, fun _ => rfl, nofun, fun e he => ⟨rfl, rfl, ?_⟩⟩
  · rcases translate_cases settings batch with ⟨_, h⟩ | ⟨_, h⟩ | ⟨_, h⟩ <;>
      simp only [events, isRejected, error?, h] <;> exact .refl _
  · rw [isRejected, he]

/-- Each descriptor that takes part has a vector that could not be fetched, or is handed over. -/
theorem length_executed {ds : List Descriptor} {stage : EmbeddingStage}
    {compiled : List (String × Compiled)} (hn : (ds.map Descriptor.name).Nodup)
    (hs : stage.IsFor hasService ds) (hc : compileAll settings stage ds = .ok compiled) :
    ds.length = stage.failures.length + compiled.length := by
  have hfailed := (hs.perm_failures hn).length_eq
  have hcompiled := (Outcome.mapM_eq_ok.mp hc).length_eq
  rw [List.length_map, List.length_map] at hfailed
  rw [List.length_eq_length_filter_add fun d => stage.hasFailed d.name, hfailed, hcompiled]

theorem map_eventOf_made (batch : List Json) (a : Answer) :
    (made (.queried batch a)).map EmbeddingStage.eventOf = a.fetches.events := by
  rw [made, EmbeddingStage.events]
  split <;> rfl

theorem made_eq_nil {batch : List Json} {a : Answer} {ds : List Descriptor}
    (hs : a.fetches.IsFor hasService ds) (h : hasService = false) :
    made (.queried batch a) = [] := by
  rw [made, hs.isAsked, h]
  rfl

/-- **What is recorded of a call that may occur.** -/
theorem Occurs.isRecorded (h : v.Occurs settings hasService) :
    v.IsRecorded settings hasService := by
  cases h with
  | translated batch => exact isRecorded_translated batch
  | @queried batch _ _ readings _ he h =>
    cases h with
    | rejected hb =>
      refine ⟨?_, List.forall_mem_nil _, ⟨.zero, .refl _⟩, fun _ => rfl, nofun, nofun⟩
      rw [dispatched, executable, hb]
      exact .nil
    | uncompiled hb hf hc hevents =>
      refine ⟨?_, List.forall_mem_nil _, ⟨.zero, ?_⟩, made_eq_nil hf.isFor, nofun,
        fun _ _ => ⟨rfl, rfl, rfl⟩⟩
      · rw [dispatched, executable, hb]
        dsimp only
        rw [hc]
        exact .nil
      · rw [map_eventOf_made]
        simpa [events, settled, isAnswered, isRejected, error?, Except.isOk, Except.toBool] using
          hevents.trans hf.perm_events
    | served hb hf hc hr hs _ hevents =>
      have hsettles := hr.run.forall₂_isOf (Tasks.isOver_of_settled? hs) hs
      have hlength := length_executed (nodup_executed hb) hf.isFor hc
      refine ⟨?_, hr.run.isCalm_of_settled? hs he,
        ⟨(Duration.ofMillis readings.total).inMillis, ?_⟩, made_eq_nil hf.isFor, fun _ => ?_,
        nofun⟩
      · rw [dispatched, executable, hb]
        dsimp only
        rw [hc]
        exact hsettles
      · rw [map_eventOf_made]
        have hrecorded := hf.perm_events.append (hr.perm_settled hs)
        simpa [events, settled, isAnswered, isRejected, error?, Except.isOk, Except.toBool] using
          hevents.trans ((hrecorded.append_right _).append_right _)
      · rw [executable, hb]
        exact hlength.trans (congrArg _ hsettles.length_eq)

/-! ### What is counted -/

/-- A counter counts the answer to a call. -/
def isCountedAnswer : Counter → Visit → Bool
  | .batches => isAnswered
  | _ => fun _ => false

/-- A counter counts the rejection of a call. -/
def isCountedRejection (settings : Settings) : Counter → Visit → Bool
  | .rejections => isRejected settings
  | _ => fun _ => false

/-- **What a counter counts of one call.** -/
theorem IsRecorded.countP_events (h : v.IsRecorded settings hasService) (c : Counter) :
    (v.events settings).countP c.counts = v.made.countP (Fetch.isCounted c) +
      v.settled.countP (Settled.isCounted c) + v.settled.countP (Settled.isCountedFailed c) +
      (v.isCountedAnswer c).toNat + (v.isCountedRejection settings c).toNat := by
  obtain ⟨millis, hperm⟩ := h.events
  have hmade : (v.made.map EmbeddingStage.eventOf).countP c.counts =
      v.made.countP (Fetch.isCounted c) := by
    rw [List.map_eq_flatMap]
    exact countP_flatMap_eq fun f _ => f.countP_eventOf c
  have hrun : (v.settled.flatMap Settled.executedEvents).countP c.counts =
      v.settled.countP (Settled.isCounted c) :=
    countP_flatMap_eq fun r hr => Settled.countP_executedEvents (h.calm r hr) c
  have hfailed : (v.settled.flatMap Settled.failureEvents).countP c.counts =
      v.settled.countP (Settled.isCountedFailed c) :=
    countP_flatMap_eq fun r _ => Settled.countP_failureEvents c
  have hanswer : (if v.isAnswered then [Event.batch millis v.settled.length] else []).countP
      c.counts = (v.isCountedAnswer c).toNat := by
    cases ha : v.isAnswered <;> cases c <;>
      simp [Counter.counts, isCountedAnswer, ha]
  have hrejection : (if v.isRejected settings then [Event.rejection] else []).countP c.counts =
      (v.isCountedRejection settings c).toNat := by
    cases hr : v.isRejected settings <;> cases c <;>
      simp [Counter.counts, isCountedRejection, hr]
  rw [hperm.countP_eq]
  simp only [List.countP_append, hmade, hrun, hfailed, hanswer, hrejection]

theorem countP_flatMap_events (h : ∀ v ∈ visits, v.IsRecorded settings hasService) (c : Counter) :
    (visits.flatMap (Visit.events settings)).countP c.counts =
      (visits.flatMap made).countP (Fetch.isCounted c) +
      (visits.flatMap settled).countP (Settled.isCounted c) +
      (visits.flatMap settled).countP (Settled.isCountedFailed c) +
      visits.countP (isCountedAnswer c) + visits.countP (isCountedRejection settings c) := by
  induction visits with
  | nil => rfl
  | cons v r ih =>
    have hv := (h v List.mem_cons_self).countP_events c
    have hr := ih fun w hw => h w (List.mem_cons_of_mem v hw)
    simp only [List.flatMap_cons, List.countP_append, List.countP_cons, hv, hr]
    cases v.isCountedAnswer c <;> cases v.isCountedRejection settings c <;> simp <;> omega

/-- What there is to count of some calls. -/
def counted (settings : Settings) (visits : List Visit) : Counter → Nat
  | .executed label => (visits.flatMap settled).countP (Settled.wasRun label)
  | .failed label => (visits.flatMap settled).countP (Settled.hasFailed label)
  | .requests success => (visits.flatMap made).countP fun f => success = f.result.isOk
  | .batches => visits.countP isAnswered
  | .rejections => visits.countP (isRejected settings)

/-- **What a counter counts of some calls**, in whichever order their events have come. -/
theorem total_eq_counted (h : ∀ v ∈ visits, v.IsRecorded settings hasService)
    (hperm : events.Perm (visits.flatMap (Visit.events settings))) (c : Counter) :
    total c.name (Metrics.ofEvents events) = counted settings visits c := by
  rw [Metrics.total_ofEvents, hperm.countP_eq, countP_flatMap_events h]
  cases c <;> simp [counted, Fetch.isCounted, Settled.isCounted, Settled.isCountedFailed,
    isCountedAnswer, isCountedRejection]

theorem IsRecorded.perm_sizes (h : v.IsRecorded settings hasService) :
    ((v.events settings).filterMap Histogram.queries.value?).Perm
      (if v.isAnswered then [.ofNat (v.executable.length - v.failures.length)] else []) := by
  obtain ⟨millis, hperm⟩ := h.events
  refine (hperm.filterMap _).trans (.of_eq ?_)
  have hmade : (v.made.map EmbeddingStage.eventOf).filterMap Histogram.queries.value? = [] := by
    simp [EmbeddingStage.eventOf, Histogram.value?]
  have hrun : (v.settled.flatMap Settled.executedEvents).filterMap
      Histogram.queries.value? = [] := by
    rw [List.filterMap_flatMap]
    refine List.flatMap_eq_nil_iff.mpr fun r hr => ?_
    rw [Settled.executedEvents_eq (h.calm r hr)]
    cases r.call <;> rfl
  have hfailed : (v.settled.flatMap Settled.failureEvents).filterMap
      Histogram.queries.value? = [] := by
    rw [List.filterMap_flatMap]
    refine List.flatMap_eq_nil_iff.mpr fun r _ => ?_
    rw [Settled.failureEvents_eq]
    cases r.result.isOk <;> rfl
  have hrejection : (if v.isRejected settings then [Event.rejection] else []).filterMap
      Histogram.queries.value? = [] := by
    cases v.isRejected settings <;> rfl
  simp only [List.filterMap_append, hmade, hrun, hfailed, hrejection]
  cases ha : v.isAnswered with
  | false => rfl
  | true =>
    rw [h.sizes ha, Nat.add_sub_cancel_left]
    rfl

theorem IsRecorded.perm_made (h : v.IsRecorded settings hasService) {e : QueryError}
    (he : v.error? settings = some (.compile e)) :
    (v.events settings).Perm (v.made.map EmbeddingStage.eventOf) := by
  obtain ⟨millis, hperm⟩ := h.events
  obtain ⟨hsettled, hanswered, hrejected⟩ := h.uncompiled e he
  simpa [hsettled, hanswered, hrejected] using hperm

end Visit

open Visit

/-! ### The accounts -/

/-- **The metrics account for some calls** of an engine. -/
structure Accounts (settings : Settings) (hasService : Bool) (visits : List Visit)
    (metrics : Keyed Metrics.Metric) : Prop where
  /-- Each query that was handed over has settled. -/
  settles : List.Forall₂ Settled.IsOf (visits.flatMap (dispatched settings))
    (visits.flatMap settled)
  /-- The statements that were handed over are counted as executed, under their labels. -/
  executed : ∀ label, total (Counter.executed label).name metrics =
    (visits.flatMap (dispatched settings)).countP (isRun label)
  /-- Each of them has a duration. -/
  durations : ∀ label, (observed (Histogram.durations label).name metrics).length =
    (visits.flatMap (dispatched settings)).countP (isRun label)
  /-- Those of them are counted as failed that have settled with an error. -/
  failed : ∀ label, total (Counter.failed label).name metrics =
    (visits.flatMap settled).countP (Settled.hasFailed label)
  /-- They are no more. -/
  failed_le : ∀ label, total (Counter.failed label).name metrics ≤
    total (Counter.executed label).name metrics
  /-- The vectors and the failures of the fetches that were made are counted. -/
  requests : ∀ success, total (Counter.requests success).name metrics =
    (visits.flatMap made).countP fun f => success = f.result.isOk
  /-- Without a service there are none. -/
  unasked : hasService = false → visits.flatMap made = []
  /-- The answers are counted. -/
  batches : total Counter.batches.name metrics = visits.countP isAnswered
  /-- Each of them has a size: the descriptors that take part, without those whose vectors could
  not be fetched. -/
  queries : (observed Histogram.queries.name metrics).Perm
    ((visits.filter isAnswered).map fun v =>
      .ofNat (v.executable.length - v.failures.length))
  sizes : ∀ v ∈ visits, v.isAnswered = true → v.failures.length ≤ v.executable.length
  /-- The calls are counted that the validation has rejected. -/
  rejections : total Counter.rejections.name metrics = visits.countP (isRejected settings)
  /-- A call that cannot be compiled adds nothing to the metrics of queries and batches, whatever
  else has been recorded. -/
  uncompiled : ∀ v ∈ visits, ∀ e, v.error? settings = some (.compile e) → ∀ others,
    (∀ c : Counter, (∀ success, c ≠ .requests success) →
      total c.name (Metrics.ofEvents (others ++ v.events settings)) =
        total c.name (Metrics.ofEvents others)) ∧
    ∀ h : Histogram, h ≠ .fetchDurations →
      (observed h.name (Metrics.ofEvents (others ++ v.events settings))).Perm
        (observed h.name (Metrics.ofEvents others))

variable {settings : Settings} {hasService : Bool} {v : Visit} {visits : List Visit}
  {events : List Event}

theorem isRun_eq {c : String × Compiled} {r : Settled} (h : r.IsOf c) (label : String) :
    isRun label c = r.wasRun label := by
  rw [isRun, Settled.wasRun, ← h.statement, h.shape, Option.isSome_map]

theorem Visit.IsRecorded.adds_nothing (hv : v.IsRecorded settings hasService) {e : QueryError}
    (he : v.error? settings = some (.compile e)) (others : List Event) :
    (∀ c : Counter, (∀ success, c ≠ .requests success) →
      total c.name (Metrics.ofEvents (others ++ v.events settings)) =
        total c.name (Metrics.ofEvents others)) ∧
    ∀ h : Histogram, h ≠ .fetchDurations →
      (observed h.name (Metrics.ofEvents (others ++ v.events settings))).Perm
        (observed h.name (Metrics.ofEvents others)) := by
  have hperm := hv.perm_made he
  refine ⟨fun c hc => ?_, fun h hh => ?_⟩
  · have hnone : (v.made.map EmbeddingStage.eventOf).countP c.counts = 0 := by
      refine List.countP_eq_zero.mpr fun e he => ?_
      obtain ⟨f, -, rfl⟩ := List.mem_map.mp he
      cases c with
      | requests success => exact absurd rfl (hc success)
      | executed | failed | batches | rejections => exact Bool.false_ne_true
    rw [Metrics.total_ofEvents, Metrics.total_ofEvents, List.countP_append, hperm.countP_eq, hnone,
      Nat.add_zero]
  · have hnone : (v.made.map EmbeddingStage.eventOf).filterMap h.value? = [] := by
      refine List.filterMap_eq_nil_iff.mpr fun e he => ?_
      obtain ⟨f, -, rfl⟩ := List.mem_map.mp he
      cases h with
      | fetchDurations => exact absurd rfl hh
      | durations | batchDurations | queries => rfl
    have hnew := hperm.filterMap h.value?
    rw [hnone] at hnew
    refine (Metrics.observed_ofEvents h _).trans (.trans ?_ (Metrics.observed_ofEvents h _).symm)
    rw [List.filterMap_append, hnew.eq_nil, List.append_nil]

/-- **The metrics account for calls that are recorded**, in whichever order the events have come. -/
theorem accounts_of_isRecorded (h : ∀ v ∈ visits, v.IsRecorded settings hasService)
    (hperm : events.Perm (visits.flatMap (Visit.events settings))) :
    Accounts settings hasService visits (Metrics.ofEvents events) := by
  have htotal := total_eq_counted h hperm
  have hsettles := forall₂_flatMap fun v hv => (h v hv).settles
  have hrun (label : String) : (visits.flatMap settled).countP (Settled.wasRun label) =
      (visits.flatMap (dispatched settings)).countP (isRun label) :=
    (countP_eq_of_forall₂ hsettles fun c r hr => isRun_eq hr label).symm
  refine
    { settles := hsettles
      executed := fun label => (htotal _).trans (hrun label)
      durations := fun label => ?_
      failed := fun label => htotal _
      failed_le := fun label => ?_
      requests := fun success => htotal _
      unasked := fun hs => List.flatMap_eq_nil_iff.mpr fun v hv => (h v hv).unasked hs
      batches := htotal _
      queries := ?_
      sizes := fun v hv ha => ((h v hv).sizes ha).symm ▸ Nat.le_add_right _ _
      rejections := htotal _
      uncompiled := fun v hv e he others => (h v hv).adds_nothing he others }
  · rw [Metrics.length_observed_eq_total (Metrics.isSome_value?_durations label), htotal]
    exact hrun label
  · rw [htotal, htotal]
    exact List.countP_mono_left fun r _ hr => (Bool.and_eq_true_iff.mp hr).1
  · refine (Metrics.observed_ofEvents Histogram.queries events).trans ?_
    refine (hperm.filterMap _).trans ?_
    rw [List.filterMap_flatMap, ← flatMap_ite_singleton]
    exact List.Perm.flatMap_left _ fun v hv => (h v hv).perm_sizes

/-- **The metrics account for every batch**: after any translations and queries that may occur, in
whichever order their events have been recorded, the metrics are what the calls have come to. Every
answer of a query is a call that may occur, if no statement breaks down. -/
theorem accounts_exact (settings : Settings) :
    (∀ embedder store cancelAt batch a,
      (∀ statement message, (store statement).outcome ≠ .panic message) →
      query settings embedder store cancelAt batch = some a →
      (Visit.queried batch a).Occurs settings embedder.isSome) ∧
    ∀ hasService visits events, (∀ v ∈ visits, v.Occurs settings hasService) →
      events.Perm (visits.flatMap (Visit.events settings)) →
      Accounts settings hasService visits (Metrics.ofEvents events) := by
  refine ⟨fun _ _ _ _ a hstore ha => ?_, fun _ visits events hv hperm => ?_⟩
  · obtain ⟨fetchEnv, hcourse⟩ := exists_course ha
    refine .queried (fun place statement message h => ?_) hcourse
    exact hstore statement message h.2.symm
  · exact accounts_of_isRecorded (fun v hmem => (hv v hmem).isRecorded) hperm

/-- A translation of something that is no descriptor, and a query of `nearBatch`. -/
def twoVisits (a : Answer) : List Visit := [.translated [.null], .queried nearBatch a]

/-- What is recorded of them, the query first. -/
def twoVisitsMetrics (a : Answer) : Keyed Metrics.Metric :=
  Metrics.ofEvents ((twoVisits a).reverse.flatMap (Visit.events .default))

/-- How many statements with a label were run, and how many of them have failed. -/
def runsOf (metrics : Keyed Metrics.Metric) (label : String) : Nat × Nat :=
  (total (Counter.executed label).name metrics, total (Counter.failed label).name metrics)

/-- The translation is rejected. The vector of one descriptor cannot be fetched; of the three others
one is answered, one fails, and one has no statement. -/
theorem accounts_exact_lost : ∃ a,
    query .default (some failingEmbedder) lostStore none nearBatch = some a ∧
    Accounts .default true (twoVisits a) (twoVisitsMetrics a) ∧
    ["search", "term", "range"].map (runsOf (twoVisitsMetrics a)) = [(1, 0), (1, 1), (0, 0)] ∧
    total (Counter.requests false).name (twoVisitsMetrics a) = 1 ∧
    observed Histogram.queries.name (twoVisitsMetrics a) = [.ofNat 3] ∧
    total Counter.rejections.name (twoVisitsMetrics a) = 1 := by
  obtain ⟨occurs, accounts⟩ := accounts_exact .default
  have hstore : ∀ statement message, (lostStore statement).outcome ≠ .panic message := by
    intro statement message
    unfold lostStore
    split <;> exact nofun
  have hquery : (query .default (some failingEmbedder) lostStore none nearBatch).map (fun a =>
      let events := (twoVisits a).reverse.flatMap (Visit.events .default)
      (["search", "term", "range"].map fun label =>
        (events.countP (Counter.executed label).counts,
          events.countP (Counter.failed label).counts),
        events.countP (Counter.requests false).counts,
        events.filterMap Histogram.queries.value?, events.countP Counter.rejections.counts)) =
      some ([(1, 0), (1, 1), (0, 0)], 1, [.ofNat 3], 1) := by
    decide +kernel
  obtain ⟨a, ha, hvalues⟩ := Option.map_eq_some_iff.mp hquery
  obtain ⟨hruns, hrequests, hsizes, hrejections⟩ : _ ∧ _ ∧ _ ∧ _ := by
    simpa only [Prod.mk.injEq, ← Metrics.total_ofEvents] using hvalues
  have hvisits : ∀ v ∈ twoVisits a, v.Occurs .default true :=
    List.forall_mem_cons.mpr ⟨.translated _, List.forall_mem_singleton.mpr
      (occurs (some failingEmbedder) lostStore none nearBatch a hstore ha)⟩
  have hperm : ((twoVisits a).reverse.flatMap (Visit.events .default)).Perm
      ((twoVisits a).flatMap (Visit.events .default)) :=
    (List.reverse_perm _).flatMap_right _
  have hobserved := Metrics.observed_ofEvents .queries
    ((twoVisits a).reverse.flatMap (Visit.events .default))
  rw [hsizes] at hobserved
  exact ⟨a, ha, accounts _ _ _ hvisits hperm, hruns, hrequests, hobserved.eq_singleton,
    hrejections⟩

end Engine

end QueryBatch
