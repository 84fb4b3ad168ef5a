import QueryBatch.Proofs.Serving

/-! # Batches that have no answer

A batch is rejected as it stands, before anything is done for it. After that only a descriptor that
takes part, whose vector did not fail to be fetched, and that does not compile with it, can be the
reason why a batch has no answer; the first such descriptor gives the error, and no statement of the
batch is handed to the store, not even of the descriptors before it.

* `Descriptor.AtFault`, `Engine.FirstFault`: the descriptors at fault, and the first of them.
* `Engine.compileAll_eq_error`: **compilation fails at the first fault**.
* `Engine.BatchErrors`, `Engine.batchErrors_of_serves`: **the errors of a batch**.
-/

namespace QueryBatch

open Outcome

/-- **A descriptor at fault**: it takes part, its vector did not fail to be fetched, and it does not
compile with the vector that was fetched for it, if any was. -/
structure Descriptor.AtFault (settings : Settings) (stage : EmbeddingStage) (d : Descriptor)
    (e : QueryError) : Prop where
  isExecuted : d.isExecuted = true
  fetched : stage.hasFailed d.name = false
  error : d.compile (stage.vector? d.name) settings.defaultSize true = .error e

namespace Engine

/-- **The first fault** in the order of the batch. -/
def FirstFault (settings : Settings) (stage : EmbeddingStage) (ds : List Descriptor)
    (e : QueryError) : Prop :=
  ∃ before d after, ds = before ++ d :: after ∧ d.AtFault settings stage e ∧
    ∀ d' ∈ before, ∀ e', ¬ d'.AtFault settings stage e'

variable {settings : Settings} {stage : EmbeddingStage} {ds : List Descriptor} {d : Descriptor}
  {e : QueryError}

theorem not_firstFault_nil : ¬ FirstFault settings stage [] e := by
  rintro ⟨before, d, after, h, -⟩
  exact List.append_ne_nil_of_right_ne_nil before (List.cons_ne_nil d after) h.symm

theorem firstFault_cons : FirstFault settings stage (d :: ds) e ↔
    d.AtFault settings stage e ∨
      (∀ e', ¬ d.AtFault settings stage e') ∧ FirstFault settings stage ds e := by
  constructor
  · rintro ⟨before, d', after, h, hd, hbefore⟩
    cases before with
    | nil =>
      cases h
      exact .inl hd
    | cons d'' before =>
      cases h
      exact .inr ⟨hbefore _ List.mem_cons_self, before, d', after, rfl, hd,
        fun c hc => hbefore c (List.mem_cons_of_mem _ hc)⟩
  · rintro (hd | ⟨hd, before, d', after, rfl, hd', hbefore⟩)
    · exact ⟨[], d, ds, rfl, hd, fun _ hc => absurd hc List.not_mem_nil⟩
    · refine ⟨d :: before, d', after, rfl, hd', fun c hc => ?_⟩
      rcases List.mem_cons.mp hc with rfl | hc
      · exact hd
      · exact hbefore c hc

theorem exists_firstFault_iff : (∃ e, FirstFault settings stage ds e) ↔
    ∃ d ∈ ds, ∃ e, d.AtFault settings stage e := by
  constructor
  · rintro ⟨e, before, d, after, rfl, hd, -⟩
    exact ⟨d, List.mem_append_right before List.mem_cons_self, e, hd⟩
  · rintro ⟨d, hm, e, hd⟩
    induction ds with
    | nil => exact absurd hm List.not_mem_nil
    | cons c r ih =>
      by_cases hc : ∃ e', c.AtFault settings stage e'
      · obtain ⟨e', hc⟩ := hc
        exact ⟨e', firstFault_cons.mpr (.inl hc)⟩
      · rcases List.mem_cons.mp hm with rfl | hm
        · exact absurd ⟨e, hd⟩ hc
        · obtain ⟨e', hr⟩ := ih hm
          exact ⟨e', firstFault_cons.mpr (.inr ⟨not_exists.mp hc, hr⟩)⟩

/-! ### Compiling a batch -/

theorem compileAll_cons_of_not (h : ¬ (d.isExecuted = true ∧ stage.hasFailed d.name = false)) :
    compileAll settings stage (executed (d :: ds)) = compileAll settings stage (executed ds) := by
  unfold compileAll executed
  by_cases hd : d.isExecuted = true
  · have hfailed : stage.hasFailed d.name = true := by
      simpa [hd] using h
    rw [List.filter_cons_of_pos hd, List.filter_cons_of_neg (by simp [hfailed])]
  · rw [List.filter_cons_of_neg hd]

theorem compileAll_cons (hd : d.isExecuted = true) (hf : stage.hasFailed d.name = false) :
    compileAll settings stage (executed (d :: ds)) = (do
      let c ← d.compile (stage.vector? d.name) settings.defaultSize true
      let r ← compileAll settings stage (executed ds)
      pure (c :: r)) := by
  unfold compileAll executed
  rw [List.filter_cons_of_pos hd, List.filter_cons_of_pos (by simp [hf]), List.mapM_cons]

/-- **Compilation fails at the first fault**, with its error. -/
theorem compileAll_eq_error :
    compileAll settings stage (executed ds) = .error e ↔ FirstFault settings stage ds e := by
  induction ds with
  | nil => exact iff_of_false (fun h => by cases h) not_firstFault_nil
  | cons d r ih =>
    rw [firstFault_cons, ← ih]
    by_cases hd : d.isExecuted = true ∧ stage.hasFailed d.name = false
    · obtain ⟨hexecuted, hfetched⟩ := hd
      have hfault : ∀ e', d.AtFault settings stage e' ↔
          d.compile (stage.vector? d.name) settings.defaultSize true = .error e' :=
        fun e' => ⟨Descriptor.AtFault.error, fun h => ⟨hexecuted, hfetched, h⟩⟩
      simp only [compileAll_cons hexecuted hfetched, bind_eq_error, hfault]
      cases d.compile (stage.vector? d.name) settings.defaultSize true with
      | error e' => simp
      | ok c => simp
    · have hfault : ∀ e', ¬ d.AtFault settings stage e' :=
        fun e' h => hd ⟨h.isExecuted, h.fetched⟩
      rw [compileAll_cons_of_not hd]
      exact ⟨fun h => .inr ⟨hfault, h⟩, fun h => (h.resolve_left (hfault e)).2⟩

/-! ### The errors of a batch -/

theorem run_of_query {embedder : Option Embedder} {store : Store} {cancelAt : Option Nat}
    {batch : List Json} {a : Answer} (h : query settings embedder store cancelAt batch = some a)
    (hb : Batch.accept batch = .ok ds) :
    EmbeddingStage.run embedder settings.queryTimeout cancelAt (executed ds) = some a.fetches := by
  rw [query, hb] at h
  obtain ⟨stage, hstage, h⟩ := Option.bind_eq_some_iff.mp h
  cases hc : compileAll settings stage (executed ds) with
  | error e =>
    rw [hc] at h
    cases h
    exact hstage
  | ok compiled =>
    rw [hc] at h
    obtain ⟨settled, -, h⟩ := Option.bind_eq_some_iff.mp h
    cases h
    exact hstage

/-- **The errors of a batch** that was served in some way. -/
structure BatchErrors (settings : Settings) (batch : List Json) (turns : List Turn) (a : Answer) :
    Prop where
  /-- It is rejected if and only if it was not accepted. -/
  validation : ∀ r, a.result = .error (.validation r) ↔ Batch.accept batch = .error r
  /-- Then nothing was asked of the service. -/
  unfetched : ∀ r, a.result = .error (.validation r) →
    a.fetches.fetches = [] ∧ a.fetches.isAsked = false
  /-- Otherwise it fails with the error of the first fault. -/
  compile : ∀ ds, Batch.accept batch = .ok ds →
    ∀ e, a.result = .error (.compile e) ↔ FirstFault settings a.fetches ds e
  /-- It fails so if and only if there is a descriptor at fault. -/
  fault : ∀ ds, Batch.accept batch = .ok ds →
    ((∃ e, a.result = .error (.compile e)) ↔ ∃ d ∈ ds, ∃ e, d.AtFault settings a.fetches e)
  /-- If it fails in any way, no task has had a turn, and the store has had no statement. -/
  unasked : ∀ e, a.result = .error e → turns = [] ∧ a.settled = []

theorem batchErrors_of_serves {hasService : Bool} {batch : List Json} {turns : List Turn}
    {a : Answer} (h : Serves settings hasService batch turns a) :
    BatchErrors settings batch turns a := by
  have hcompile : ∀ ds, Batch.accept batch = .ok ds →
      ∀ e, a.result = .error (.compile e) ↔ FirstFault settings a.fetches ds e := by
    intro ds hds e
    rw [← compileAll_eq_error]
    cases h with
    | rejected hb =>
      rw [hb] at hds
      cases hds
    | uncompiled hb _ hc =>
      cases hb.symm.trans hds
      rw [hc]
      exact ⟨fun h => by cases h; rfl, fun h => by cases h; rfl⟩
    | served hb _ hc =>
      cases hb.symm.trans hds
      rw [hc]
      exact iff_of_false (fun h => by cases h) fun h => by cases h
  refine ⟨fun r => ?_, fun r hr => ?_, hcompile, fun ds hds => ?_, fun e he => ?_⟩
  · cases h with
    | rejected hb =>
      rw [hb]
      exact ⟨fun h => by cases h; rfl, fun h => by cases h; rfl⟩
    | uncompiled hb | served hb =>
      rw [hb]
      exact iff_of_false (fun h => by cases h) fun h => by cases h
  · cases h with
    | rejected => exact ⟨rfl, rfl⟩
    | uncompiled | served => cases hr
  · rw [← exists_firstFault_iff]
    exact exists_congr fun e => hcompile ds hds e
  · cases h with
    | rejected => exact ⟨rfl, rfl⟩
    | uncompiled => exact ⟨rfl, rfl⟩
    | served => cases he

/-- **The first fault rejects a batch, and then nothing of it is run.** Each way to serve a batch
has the errors that it should have, and so has every answer of a query; what a query answers to a
rejected batch does not depend on the service or the store, and what it answers to a fault does not
depend on the store, which may even be one that never answers. -/
theorem errors_of_batch (settings : Settings) (batch : List Json) :
    (∀ hasService turns a, Serves settings hasService batch turns a →
      BatchErrors settings batch turns a) ∧
    (∀ embedder store cancelAt a, query settings embedder store cancelAt batch = some a →
      ∃ turns, Serves settings embedder.isSome batch turns a) ∧
    (∀ r, Batch.accept batch = .error r → ∃ a, a.result = .error (.validation r) ∧
      ∀ embedder store cancelAt, query settings embedder store cancelAt batch = some a) ∧
    ∀ ds embedder cancelAt stage e, Batch.accept batch = .ok ds →
      EmbeddingStage.run embedder settings.queryTimeout cancelAt (executed ds) = some stage →
      FirstFault settings stage ds e → ∃ a, a.result = .error (.compile e) ∧
        ∀ store, query settings embedder store cancelAt batch = some a := by
  refine ⟨fun _ _ _ => batchErrors_of_serves, fun _ _ _ _ => exists_serves, fun r hr => ?_,
    fun ds embedder cancelAt stage e hds hstage he => ?_⟩
  · refine ⟨⟨.error (.validation r), [.rejection], ⟨[], false⟩, []⟩, rfl,
      fun embedder store cancelAt => ?_⟩
    rw [query, hr]
  · refine ⟨⟨.error (.compile e), stage.events, stage, []⟩, rfl, fun store => ?_⟩
    rw [query, hds]
    simp only [answer, hstage, compileAll_eq_error.mpr he, Option.bind_eq_bind, Option.bind_some]
    rfl

/-- A descriptor that does not take part, one whose vector cannot be fetched, a good one, and two
that do not compile. All but the third have a fault. -/
def faultyBatch : List Json := [
  .object [("dataField", .string "a b"), ("execute", .bool false), ("id", .string "skipped"),
    ("table", .string "books")],
  .object [("dataField", .string "title"), ("id", .string "near"), ("sortField", .string "a;b"),
    ("table", .string "books"), ("value", .string "dune"), ("vectorDataField", .string "v")],
  .object [("dataField", .string "title"), ("id", .string "titles"), ("table", .string "books"),
    ("value", .string "dune")],
  .object [("dataField", .string "c d"), ("id", .string "unsafe"), ("table", .string "books")],
  .object [("id", .string "homeless")]]

/-- A store that never answers. -/
def silentStore : Store := fun _ => ⟨none, .rows []⟩

/-- Of the faults the fourth one counts, and no store is asked, not even one that never answers. -/
theorem errors_of_batch_faulty :
    ∃ ds a turns, Batch.accept faultyBatch = .ok ds ∧
      a.result = .error (.compile (.invalidIdentifier "c d")) ∧
      FirstFault .default a.fetches ds (.invalidIdentifier "c d") ∧
      Serves .default false faultyBatch turns a ∧ turns = [] ∧
      ∀ store, query .default none store none faultyBatch = some a := by
  obtain ⟨errors, answers, -, silent⟩ := errors_of_batch .default faultyBatch
  have hresult : (query .default none silentStore none faultyBatch).map (fun a => a.result) =
      some (.error (.compile (.invalidIdentifier "c d"))) := by
    decide +kernel
  obtain ⟨a, ha, hr⟩ := Option.map_eq_some_iff.mp hresult
  obtain ⟨turns, hserves⟩ := answers _ _ _ _ ha
  have hall := errors _ _ _ hserves
  cases hb : Batch.accept faultyBatch with
  | error r =>
    rw [(hall.validation r).mpr hb] at hr
    cases hr
  | ok ds =>
    have hfault := (hall.compile ds hb _).mp hr
    obtain ⟨a', -, hstores⟩ := silent ds none none _ _ hb (run_of_query ha hb) hfault
    cases ha.symm.trans (hstores silentStore)
    exact ⟨ds, a, turns, rfl, hr, hfault, hserves, (hall.unasked _ hr).1, hstores⟩

end Engine

end QueryBatch
