import QueryBatch.Proofs.ScheduleRun

/-! # Serving a batch, whatever comes

A service may give a vector or fail for each text that it is asked for, and a store may answer each
statement in any way, at any time and in any order. What is then made of it is settled: the batch is
accepted or rejected, the descriptors whose vectors did not fail are compiled, and their tasks are
run if all of them compile.

* `EmbeddingStage.IsFor`: the fetches that may come for some descriptors.
* `Engine.Serves`: the turns and the answers that may come for a batch.
* `Engine.exists_serves`: **every answer of `Engine.query` is one of them**.
-/

namespace QueryBatch

open Outcome

/-- **The fetches that may come** for some descriptors: one for each that wants a vector, with any
result; without a service to ask they all fail. -/
structure EmbeddingStage.IsFor (stage : EmbeddingStage) (hasService : Bool)
    (ds : List Descriptor) : Prop where
  texts : stage.fetches.map (fun f => (f.name, f.text)) = wanted ds
  isAsked : stage.isAsked = hasService
  unavailable : hasService = false → ∀ f ∈ stage.fetches, f.result = .error .unavailable

namespace Engine

/-- **The ways to serve a batch**: the turns of its tasks, and the answer. -/
inductive Serves (settings : Settings) (hasService : Bool) (batch : List Json) :
    List Turn → Answer → Prop
  | rejected {r : Rejection} (h : Batch.accept batch = .error r) :
    Serves settings hasService batch [] ⟨.error (.validation r), [.rejection], ⟨[], false⟩, []⟩
  | uncompiled {ds : List Descriptor} {stage : EmbeddingStage} {e : QueryError}
    (h : Batch.accept batch = .ok ds) (hs : stage.IsFor hasService (executed ds))
    (hc : compileAll settings stage (executed ds) = .error e) :
    Serves settings hasService batch [] ⟨.error (.compile e), stage.events, stage, []⟩
  | served {ds : List Descriptor} {stage : EmbeddingStage} {compiled : List (String × Compiled)}
    {env : Environment} {turns : List Turn} {s : Tasks} {settled : List Settled}
    (h : Batch.accept batch = .ok ds) (hs : stage.IsFor hasService (executed ds))
    (hc : compileAll settings stage (executed ds) = .ok compiled)
    (hr : Tasks.Run settings.limits env (.ofBatch settings.limits stage.took compiled) turns s)
    (ho : s.IsOver) (ht : s.settled? = some settled) :
    Serves settings hasService batch turns
      ⟨.ok (envelope stage settled), batchEvents stage settled, stage, settled⟩

end Engine

/-! ### What has settled -/

theorem Task.History.map_fst_call {limits : ExecutionLimits} {env : Environment} {place : Nat}
    {statement : Option Statement} {call : Option (Statement × Call)} {turns : List Turn}
    (h : (Task.mk statement (.settled call)).History limits env place turns) :
    call.map Prod.fst = statement := by
  cases h with
  | skipped => rfl
  | finished => rfl

/-- **Every query of a run settles**, at its place. -/
theorem Tasks.Run.forall₂_isOf {limits : ExecutionLimits} {env : Environment} {begin : Nat}
    {compiled : List (String × Compiled)} {turns : List Turn} {s : Tasks} {settled : List Settled}
    (h : Run limits env (ofBatch limits begin compiled) turns s) (ho : s.IsOver)
    (hs : s.settled? = some settled) : List.Forall₂ Settled.IsOf compiled settled := by
  obtain ⟨_, hs', hlength, heach⟩ := h.sound.exists_settled ho
  cases hs.symm.trans hs'
  refine List.forall₂_iff_get.mpr ⟨hlength.symm, fun i hc hr => ?_⟩
  obtain ⟨hname, hshape, hhistory⟩ :=
    heach i _ _ (List.getElem?_eq_getElem hc) (List.getElem?_eq_getElem hr)
  exact ⟨hname, hshape, hhistory.map_fst_call⟩

/-! ### What a query answers -/

theorem Fetch.settle_eq_some {embedder : Embedder} {timeout cancelAt : Option Nat}
    {name text : String} {f : Fetch} (h : settle embedder timeout cancelAt name text = some f) :
    f.name = name ∧ f.text = text := by
  obtain ⟨⟨took, result⟩, -, rfl⟩ := Option.map_eq_some_iff.mp h
  exact ⟨rfl, rfl⟩

theorem EmbeddingStage.isFor_of_run {embedder : Option Embedder} {timeout cancelAt : Option Nat}
    {ds : List Descriptor} {stage : EmbeddingStage}
    (h : run embedder timeout cancelAt ds = some stage) : stage.IsFor embedder.isSome ds := by
  cases embedder with
  | none =>
    cases h
    refine ⟨?_, rfl, fun _ f hf => ?_⟩
    · rw [List.map_map]
      exact List.map_id _
    · obtain ⟨w, -, rfl⟩ := List.mem_map.mp hf
      rfl
  | some e =>
    obtain ⟨fetches, hfetches, h⟩ := Option.bind_eq_some_iff.mp h
    cases h
    refine ⟨?_, rfl, fun h => by cases h⟩
    have heach : (wanted ds).map id = fetches.map fun f => (f.name, f.text) :=
      map_eq_of_forall₂ (mapM_eq_some.mp hfetches) fun w f hf => by
        obtain ⟨hname, htext⟩ := Fetch.settle_eq_some hf
        rw [hname, htext, id_eq]
    rw [← heach, List.map_id]

/-- **Every answer to a batch is one of those that may come.** -/
theorem Engine.exists_serves {settings : Settings} {embedder : Option Embedder} {store : Store}
    {cancelAt : Option Nat} {batch : List Json} {a : Answer}
    (h : query settings embedder store cancelAt batch = some a) :
    ∃ turns, Serves settings embedder.isSome batch turns a := by
  unfold query at h
  cases hb : Batch.accept batch with
  | error r =>
    rw [hb] at h
    cases h
    exact ⟨[], .rejected hb⟩
  | ok ds =>
    rw [hb] at h
    obtain ⟨stage, hstage, h⟩ := Option.bind_eq_some_iff.mp h
    have hfor := EmbeddingStage.isFor_of_run hstage
    cases hc : compileAll settings stage (executed ds) with
    | error e =>
      rw [hc] at h
      cases h
      exact ⟨[], .uncompiled hb hfor hc⟩
    | ok compiled =>
      rw [hc] at h
      obtain ⟨settled, hsettled, h⟩ := Option.bind_eq_some_iff.mp h
      cases h
      obtain ⟨turns, s, hrun, ho, hs⟩ := Schedule.exists_run hsettled
      exact ⟨turns, .served hb hfor hc hrun ho hs⟩

end QueryBatch
