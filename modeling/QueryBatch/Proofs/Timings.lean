import QueryBatch.Proofs.Entries
import QueryBatch.Proofs.Independence
import QueryBatch.Proofs.Recorded
import QueryBatch.Proofs.ReportedTimes

/-! # The times of an answer

The clock of the tasks starts when the statements are handed over and stands no later than when
they have all settled, so each call lies between the two readings. The readings of a batch are in
order, and so are the stages: the vectors are there before the first call starts. Hence the batch
takes at least as long as its two stages together, and no call and no fetching takes longer.
Rounding keeps the order, so this holds of the times as they stand in the answer; and unless they
are longer than centuries, these are the measured ones.

* `Task.IsWithin`, `Tasks.Run.clocked`: **in each state of a run** the calls lie within its time.
* `Engine.EntryTime`: the time that an entry tells.
* `Engine.Timings`: **the times of an answer.**
* `Engine.timings_consistent`: **the times are consistent**, in whichever way the batch may go.
-/

namespace QueryBatch

open Duration (reported)

/-! ### The clock of the tasks -/

/-- A call lies between two moments. -/
def Call.IsWithin (begin last : Nat) (c : Call) : Prop :=
  begin ≤ c.start ∧ c.start ≤ c.finish ∧ c.finish ≤ last

/-- **A task within the time of its batch**: its call has started since the beginning, and whatever
has happened to it has happened by now. -/
inductive Task.IsWithin (begin clock : Nat) : Task → Prop
  | waiting (statement : Option Statement) : IsWithin begin clock ⟨statement, .waiting⟩
  | skipped (statement : Option Statement) : IsWithin begin clock ⟨statement, .settled none⟩
  | running {statement : Option Statement} {start : Nat} {asked : Bool} (hb : begin ≤ start)
    (hs : start ≤ clock) : IsWithin begin clock ⟨statement, .running start asked⟩
  | settled {statement : Option Statement} {call : Statement × Call}
    (h : call.2.IsWithin begin clock) : IsWithin begin clock ⟨statement, .settled (some call)⟩

theorem Task.IsWithin.mono {begin clock clock' : Nat} {t : Task} (h : t.IsWithin begin clock)
    (hle : clock ≤ clock') : t.IsWithin begin clock' := by
  cases h with
  | waiting => exact .waiting _
  | skipped => exact .skipped _
  | running hb hs => exact .running hb (hs.trans hle)
  | settled h => exact .settled ⟨h.1, h.2.1, h.2.2.trans hle⟩

namespace Tasks

variable {limits : ExecutionLimits} {env : Environment} {begin : Nat}
  {compiled : List (String × Compiled)} {turns : List Turn} {turn : Turn}
  {settled : List Settled} {s s' : Tasks}

/-- **All tasks are within the time of their batch.** -/
structure Clocked (begin : Nat) (s : Tasks) : Prop where
  begin_le : begin ≤ s.clock
  each : ∀ t ∈ s.tasks, t.IsWithin begin s.clock

theorem clocked_ofBatch : Clocked begin (ofBatch limits begin compiled) := by
  refine ⟨le_rfl, fun t ht => ?_⟩
  obtain ⟨c, -, rfl⟩ := List.mem_map.mp ht
  exact .waiting _

/-- **A turn does not put the clock back**, and what happens at it happens now. -/
theorem Clocked.step (h : Clocked begin s) (hs : Step limits env s turn s') :
    Clocked begin s' := by
  have hset : ∀ {place moment : Nat} {u : Task}, s.clock ≤ moment → u.IsWithin begin moment →
      ∀ t ∈ s.tasks.set place u, t.IsWithin begin moment := by
    intro place moment u hm hu t ht
    rcases List.mem_or_eq_of_mem_set ht with hmem | rfl
    · exact (h.each t hmem).mono hm
    · exact hu
  cases hs with
  | cancel => exact ⟨h.begin_le, h.each⟩
  | skip => exact ⟨h.begin_le, hset le_rfl (.skipped _)⟩
  | start _ _ _ hm =>
    have hbegin := h.begin_le.trans hm
    exact ⟨hbegin, hset hm (.running hbegin le_rfl)⟩
  | finish ht _ hm =>
    cases h.each _ (List.mem_of_getElem? ht) with
    | running hb hstart =>
      exact ⟨h.begin_le.trans hm, hset hm (.settled ⟨hb, hstart.trans hm, le_rfl⟩)⟩

/-- **In each state of a run** all tasks are within the time of their batch. -/
theorem Run.clocked (h : Run limits env (ofBatch limits begin compiled) turns s) :
    Clocked begin s := by
  induction h with
  | nil => exact clocked_ofBatch
  | snoc _ hs ih => exact ih.step hs

/-- **The calls of a run** lie between its beginning and its end. -/
theorem Run.isWithin_of_settled? (h : Run limits env (ofBatch limits begin compiled) turns s)
    (hs : s.settled? = some settled) :
    ∀ c ∈ Schedule.calls settled, c.2.IsWithin begin s.clock := by
  intro c hc
  obtain ⟨r, hr, hcall⟩ := List.mem_filterMap.mp hc
  obtain ⟨_, hs', hlength, heach⟩ := h.sound.exists_settled_tasks (isOver_of_settled? hs)
  cases hs.symm.trans hs'
  obtain ⟨place, q, hq, hplace⟩ := Schedule.exists_place hlength hr
  obtain ⟨-, -, htask⟩ := heach place q r hq hplace
  rw [hcall] at htask
  cases h.clocked.each _ (List.mem_of_getElem? htask) with
  | settled h => exact h

end Tasks

theorem Settled.took_le_of_isWithin {begin last : Nat} {r : Settled}
    (h : ∀ c ∈ r.call, c.2.IsWithin begin last) : r.took ≤ max 1 (last - begin) := by
  rcases hc : r.call with _ | ⟨statement, call⟩
  · rw [took_of_no_call hc]
    exact Nat.le_max_left _ _
  · obtain ⟨hb, -, hf⟩ := h _ hc
    rw [took_of_call hc]
    refine call.took_le.trans (max_le_max le_rfl ?_)
    dsimp only at hb hf
    omega

namespace Readings

/-- **The two stages of a batch lie within its time.** -/
theorem fetching_add_executing_le (r : Readings) : r.fetching + r.executing ≤ r.total := by
  have h₁ := r.begun_le_fetched
  have h₂ := r.fetched_le_dispatched
  have h₃ := r.dispatched_le_settled
  have h₄ := r.settled_le_ended
  unfold fetching executing total
  omega

theorem fetching_le_total (r : Readings) : r.fetching ≤ r.total :=
  (Nat.le_add_right _ _).trans r.fetching_add_executing_le

theorem one_le_total (r : Readings) : 1 ≤ r.total := Nat.le_max_left _ _

theorem max_executing_le_total (r : Readings) : max 1 r.executing ≤ r.total :=
  max_le r.one_le_total ((Nat.le_add_left _ _).trans r.fetching_add_executing_le)

end Readings

/-! ### The times of the entries -/

namespace Engine

/-- **The time that an entry tells**, if it is not null. An entry of a fetch that failed tells the
time of all fetches; all other entries tell the time of the query with their name, which is no less
than one. No entry tells more than the batch. -/
inductive EntryTime (readings : Readings) (settled : List Settled) (k : String) : Json → Prop
  | null : EntryTime readings settled k .null
  | unfetched {j : Json} (hs : j.field? "status" = some (.ofNat 502))
    (ht : j.field? "took" = some (.ofBinary64 (reported readings.fetching)))
    (hle : (reported readings.fetching).le (reported readings.total) = true) :
    EntryTime readings settled k j
  | executed {j : Json} {r : Settled} (hr : r ∈ settled) (hk : r.name = k)
    (hs : j.field? "status" = none ∨ j.field? "status" = some (.ofNat 500))
    (ht : j.field? "took" = some (.ofBinary64 (reported r.took)))
    (htook : r.took ≤ max 1 readings.executing)
    (hone : Binary64.one.le (reported r.took) = true)
    (hle : (reported r.took).le (reported readings.total) = true) : EntryTime readings settled k j

/-- **The times of an answer**, with its fields and its calls. -/
structure Timings (readings : Readings) (settled : List Settled) (fields : Keyed Json) :
    Prop where
  /-- The entry of the batch tells the time of the batch. -/
  batch : Keyed.get? Batch.settingsKey fields =
    some (.object [("took", .ofBinary64 (reported readings.total))])
  /-- All other entries tell no longer ones. -/
  entries : ∀ k j, k ≠ Batch.settingsKey → Keyed.get? k fields = some j →
    EntryTime readings settled k j
  /-- No statement is started before the vectors are there. -/
  after : ∀ c ∈ Schedule.calls settled, readings.fetched ≤ c.2.start
  /-- The batch takes as long as its two stages, at least. -/
  stages : readings.fetching + readings.executing ≤ readings.total
  /-- So it is told. -/
  told : (reported (readings.fetching + readings.executing)).le (reported readings.total) = true
  /-- Times below 2⁴⁴ milliseconds are told as they are. -/
  exact : ∀ n < 2 ^ 44, reported n = .ofNat n
  /-- The time of the batch is a number, if it has 64 bits. -/
  finite : readings.total ≤ 2 ^ 64 → (reported readings.total).isFinite = true

variable {readings : Readings} {r : Settled}

theorem field?_entry (shape : Shape) (took : Json) (rows : List Row) :
    shape.entry took rows = .null ∨ (shape.entry took rows).field? "status" = none ∧
      (shape.entry took rows).field? "took" = some took := by
  rcases shape.entry_cases rows with ⟨-, h⟩ | ⟨-, h | ⟨aggregations, h⟩⟩
  · exact .inl (h took)
  · rw [h]
    exact .inr ⟨rfl, rfl⟩
  · rw [h]
    exact .inr ⟨rfl, rfl⟩

variable {settled : List Settled}

theorem entryTime_unfetched (name message : String) :
    EntryTime readings settled name (errorEntry name message embeddingFailureStatus
      (Duration.ofMillis readings.fetching).inMillis) :=
  .unfetched rfl rfl (Duration.reported_le readings.fetching_le_total)

theorem entryTime_response (hr : r ∈ settled)
    (h : ∀ c ∈ r.call, c.2.IsWithin readings.dispatched readings.settled) :
    EntryTime readings settled r.name r.response.entry := by
  have htook : r.took ≤ max 1 readings.executing := Settled.took_le_of_isWithin h
  have hone := Duration.one_le_reported r.one_le_took
  have hle := Duration.reported_le (htook.trans readings.max_executing_le_total)
  unfold Response.entry Settled.response
  cases r.result with
  | error e => exact .executed hr rfl (.inr rfl) rfl htook hone hle
  | ok rows =>
    rcases field?_entry r.shape (encodeTook (Duration.ofMillis r.took).inMillis) rows with
      hnull | ⟨hs, ht⟩
    · dsimp only
      rw [hnull]
      exact .null
    · exact .executed hr rfl (.inl hs) ht htook hone hle

/-- Each entry of an answer satisfies something. -/
def Holds (P : String → Json → Prop) (e : Envelope) : Prop := ∀ k j, Keyed.get? k e = some j → P k j

theorem Holds.insert {P : String → Json → Prop} {e : Envelope} {k : String} {j : Json}
    (h : Holds P e) (hj : P k j) : Holds P (Keyed.insert k j e) := by
  intro k' j' hget
  rw [Keyed.get?_insert] at hget
  split at hget
  · next hk =>
    cases hget
    rwa [hk]
  · exact h k' j' hget

/-- **The times of an answer**, if its calls lie between the readings. -/
theorem exists_timings (readings : Readings) (stage : EmbeddingStage)
    (h : ∀ c ∈ Schedule.calls settled, c.2.IsWithin readings.dispatched readings.settled) :
    ∃ fields, envelopeIn stage readings.fetching readings.total settled = .object fields ∧
      Timings readings settled fields := by
  have hfailed : Holds (EntryTime readings settled) (stage.failures.foldl (fun e f =>
      Envelope.pushError e f.1 f.2.message embeddingFailureStatus
        (Duration.ofMillis readings.fetching).inMillis) []) :=
    List.foldlRecOn _ _ (fun _ _ hnone => by cases hnone) fun e he f _ =>
      he.insert (entryTime_unfetched f.1 f.2.message)
  have hall : Holds (EntryTime readings settled)
      ((settled.map Settled.response).foldl Envelope.pushResponse _) :=
    List.foldlRecOn _ _ hfailed fun e he response hresponse => by
      obtain ⟨r, hr, rfl⟩ := List.mem_map.mp hresponse
      exact he.insert (entryTime_response hr fun c hc =>
        h c (List.mem_filterMap.mpr ⟨r, hr, hc⟩))
  refine ⟨_, rfl, Keyed.get?_insert_self _ _ _, fun k j hk hget => ?_, fun c hc => ?_,
    readings.fetching_add_executing_le,
    Duration.reported_le readings.fetching_add_executing_le,
    fun _ => Duration.reported_eq_ofNat, Duration.isFinite_reported⟩
  · rw [Keyed.get?_insert_of_ne hk] at hget
    exact hall k j hget
  · exact readings.fetched_le_dispatched.trans (h c hc).1

/-- **The times of an answer are consistent**, however long the fetches and the calls have taken,
whatever has ended them and in whichever order they have had their turns: the entry of the batch
tells no less than any other, an entry of a call tells one at least, and an entry of a failed fetch
tells the time of all fetches, which have ended before any call has started. Below 2⁴⁴ milliseconds
each of them tells exactly what was measured. Every answer of a query is one of these. -/
theorem timings_consistent (settings : Settings) (batch : List Json) :
    (∀ embedder store cancelAt a, query settings embedder store cancelAt batch = some a →
      ∃ fetchEnv, Course settings embedder.isSome fetchEnv (.ofStore store cancelAt) batch
        a.readings a) ∧
    ∀ hasService fetchEnv env readings a response,
      Course settings hasService fetchEnv env batch readings a → a.result = .ok response →
      ∃ fields, response = .object fields ∧ Timings readings a.settled fields := by
  refine ⟨fun _ _ _ _ => exists_course, fun _ _ _ readings a response h hr => ?_⟩
  cases h with
  | rejected => cases hr
  | uncompiled => cases hr
  | served _ _ _ hrec hs ht =>
    cases hr
    refine exists_timings readings _ fun c hc => ?_
    obtain ⟨hb, hcall, hf⟩ := hrec.run.isWithin_of_settled? hs c hc
    exact ⟨hb, hcall, hf.trans ht⟩

/-- A service that fails for every text after two milliseconds. -/
def failingEmbedder : Embedder := fun _ => ⟨some 2, .error (.request "503")⟩

/-- Only one statement may run at once. -/
def queuedSettings : Settings := { Settings.default with maxConcurrent := some 1 }

/-- A fetch fails after two milliseconds, a statement is answered five milliseconds later, and
another one, which has waited for it, fails after three more. -/
theorem timings_consistent_queued : ∃ a fields,
    query queuedSettings (some failingEmbedder) lostStore none nearBatch = some a ∧
    a.result = .ok (.object fields) ∧
    a.readings.fetching = 2 ∧ a.readings.executing = 8 ∧ a.readings.total = 10 ∧
    (Schedule.calls a.settled).map (fun c => (c.2.start, c.2.finish)) = [(2, 7), (7, 10)] ∧
    Timings a.readings a.settled fields := by
  obtain ⟨course, timings⟩ := timings_consistent queuedSettings nearBatch
  have hquery : (query queuedSettings (some failingEmbedder) lostStore none nearBatch).map
      (fun a => (a.result.isOk, a.fetches.took, Schedule.finish a.fetches.took a.settled,
        (Schedule.calls a.settled).map fun c => (c.2.start, c.2.finish))) =
        some (true, 2, 10, [(2, 7), (7, 10)]) := by
    decide +kernel
  obtain ⟨a, ha, hvalues⟩ := Option.map_eq_some_iff.mp hquery
  obtain ⟨hok, hfetched, hfinish, hcalls⟩ : _ ∧ _ ∧ _ ∧ _ := by
    simpa only [Prod.mk.injEq] using hvalues
  obtain ⟨response, hr⟩ := Outcome.exists_eq_ok_of_isOk hok
  obtain ⟨fetchEnv, hcourse⟩ := course _ _ _ _ ha
  obtain ⟨fields, rfl, htimings⟩ := timings _ _ _ _ _ _ hcourse hr
  refine ⟨a, fields, ha, hr, hfetched, ?_, ?_, hcalls, htimings⟩
  · show Schedule.finish a.fetches.took a.settled - a.fetches.took = 8
    rw [hfinish, hfetched]
  · show max 1 (Schedule.finish a.fetches.took a.settled - 0) = 10
    rw [hfinish]
    rfl

end Engine

end QueryBatch
