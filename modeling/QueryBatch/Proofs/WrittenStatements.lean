import QueryBatch.Proofs.Entries

/-! # Statements written by hand

A statement that is written by hand is handed to the store as it stands, and no vector is part of
it. A vector is fetched all the same, if the descriptor says that it wants one. What vector comes
makes no difference, but if none comes the statement is not run, and the entry says so.

* `Answer.handed?`: the statement that the store has had for a name.
* `Engine.WrittenEntry`: the statement and the entry of such a descriptor.
* `Engine.written_eq_of_fetched`: **they are the same in any two answers**, unless a vector is
  missing in one of them.
-/

namespace QueryBatch

open Outcome

/-- **The statement that was run** for the query with a name, if there was one. -/
def Answer.handed? (k : String) (a : Answer) : Option Statement :=
  (Keyed.get? k (a.settled.map fun r => (r.name, r.call.map Prod.fst))).join

/-- The fetch for a descriptor did not fail in an answer, or there was none. -/
def Answer.HasFetched (a : Answer) (k : String) : Prop :=
  ∀ e, a.fetches.result? k ≠ some (.error e)

/-- **A statement written by hand compiles to itself**, whatever the vector. -/
theorem Descriptor.compile_of_written {d : Descriptor} {embedded : Option (List Binary64)}
    {defaultSize : Nat} {countsRows : Bool} {s : String} {c : String × Compiled}
    (hs : d.statement? = some s) (h : d.compile embedded defaultSize countsRows = .ok c) :
    c = (d.name, ⟨some ⟨s, []⟩, .written d.kindOrDefault d.fieldNames.head?⟩) := by
  obtain ⟨hname, q, -, hq, hc⟩ := compile_eq_ok h
  cases hq with
  | written hs' =>
    cases hs.symm.trans hs'
    exact Prod.ext hname (Except.ok.inj hc).symm
  | search hs' | term hs' | range hs' =>
    rw [hs] at hs'
    cases hs'

namespace Engine

/-- **The statement and the entry of a descriptor that has a statement written by hand.** If its
fetch failed, nothing of it was run; otherwise the store has had the statement, and the entry has
the result in the shape that the descriptor asks for. -/
structure WrittenEntry (d : Descriptor) (s : String) (a : Answer) (fields : Keyed Json) : Prop where
  unfetched : ∀ e, a.fetches.result? d.name = some (.error e) →
    d.wantsEmbedding = true ∧ a.handed? d.name = none ∧
      ∃ took, Keyed.get? d.name fields = some (errorEntry d.name e.message 502 took)
  fetched : a.HasFetched d.name →
    a.handed? d.name = some ⟨s, []⟩ ∧ ∃ r took, a.executed? d.name = some r ∧
      Keyed.get? d.name fields =
        some (Response.entry ⟨d.name, r, took, .written d.kindOrDefault d.fieldNames.head?⟩)

variable {settings : Settings} {hasService : Bool} {ds : List Descriptor} {d : Descriptor}
  {s : String} {a a' : Answer} {fields fields' : Keyed Json}

theorem Answered.nodup_settled (h : Answered settings hasService ds a fields) :
    (a.settled.map Settled.name).Nodup := by
  have hkeys := (perm_entries h.fetched h.names h.settled).nodup_iff.mpr h.names
  rw [map_fst_entries] at hkeys
  exact (List.nodup_append.mp hkeys).2.1

theorem Answered.handed?_of_mem (h : Answered settings hasService ds a fields) {r : Settled}
    (hr : r ∈ a.settled) : a.handed? r.name = r.call.map Prod.fst := by
  have hkeys : ((a.settled.map fun r => (r.name, r.call.map Prod.fst)).map Prod.fst).Nodup := by
    rw [List.map_map]
    exact h.nodup_settled
  rw [Answer.handed?, Keyed.get?_of_mem hkeys (List.mem_map_of_mem hr)]
  rfl

theorem Answered.writtenEntry (h : Answered settings hasService ds a fields) (hd : d ∈ ds)
    (hs : d.statement? = some s) : WrittenEntry d s a fields := by
  obtain ⟨j, hj, hentry⟩ := h.each d hd
  cases hentry with
  | @unfetched e took hw hf hx =>
    refine ⟨fun e' he' => ⟨hw, ?_, took, ?_⟩, fun hok => absurd hf (hok e)⟩
    · have hnone :
          Keyed.get? d.name (a.settled.map fun r => (r.name, r.call.map Prod.fst)) = none := by
        rw [Keyed.get?_eq_none_iff, List.map_map]
        exact Answer.executed?_eq_none_iff.mp hx
      rw [Answer.handed?, hnone]
      rfl
    · cases hf.symm.trans he'
      exact hj
  | @settled c r took hf hc hx =>
    refine ⟨fun e he => absurd he (hf e), fun _ => ⟨?_, r, took, hx, ?_⟩⟩
    · have htaken : d ∈ ds.filter fun d => !a.fetches.hasFailed d.name := by
        refine List.mem_filter.mpr ⟨hd, ?_⟩
        have hnot : ¬ a.fetches.hasFailed d.name = true := by
          rw [EmbeddingStage.hasFailed_iff (h.fetched.nodup_results h.names)]
          rintro ⟨e, he⟩
          exact hf e he
        simpa using hnot
      obtain ⟨q, hq, c', hc', hof⟩ := exists_of_forall₂_left h.settled htaken
      have hname : q.name = d.name := hof.name
      rw [← hname, h.handed?_of_mem hq, hof.statement,
        (Prod.mk.inj (Descriptor.compile_of_written hs hc')).2]
    · rw [hj, (Prod.mk.inj (Descriptor.compile_of_written hs hc)).2]

/-- **Two answers** in which the fetch for the descriptor did not fail have run the same statement
for it, and have the same entry up to the time if the results are the same. -/
theorem WrittenEntry.eq_of_fetched (h : WrittenEntry d s a fields)
    (h' : WrittenEntry d s a' fields') (hf : a.HasFetched d.name) (hf' : a'.HasFetched d.name) :
    a.handed? d.name = a'.handed? d.name ∧ (a.executed? d.name = a'.executed? d.name →
      (Keyed.get? d.name fields).map Json.withoutTook =
        (Keyed.get? d.name fields').map Json.withoutTook) := by
  obtain ⟨hhanded, r, took, hr, hentry⟩ := h.fetched hf
  obtain ⟨hhanded', r', took', hr', hentry'⟩ := h'.fetched hf'
  refine ⟨hhanded.trans hhanded'.symm, fun hx => ?_⟩
  cases hr.symm.trans (hx.trans hr')
  rw [hentry, hentry', Option.map_some, Option.map_some]
  cases r with
  | error e => exact congrArg some (withoutTook_errorEntry _ _ _ _ _)
  | ok rows => exact congrArg some (Shape.withoutTook_entry _ _ _ _)

theorem Answered.not_hasFetched (h : Answered settings false ds a fields) (hd : d ∈ ds)
    (hx : d.isExecuted = true) (hw : d.wantsEmbedding = true) : ¬ a.HasFetched d.name := by
  obtain ⟨f, hf, hname⟩ := h.fetched.exists_fetch hd hx hw
  have hresult := h.fetched.unavailable rfl f hf
  intro hok
  refine hok .unavailable ?_
  rw [EmbeddingStage.result?, ← hname, ← hresult]
  exact Keyed.get?_of_mem (h.fetched.nodup_results h.names) (List.mem_map_of_mem hf)

theorem Answered.hasFetched (h : Answered settings hasService ds a fields) (hd : d ∈ ds)
    (hw : d.wantsEmbedding = false) : a.HasFetched d.name := by
  intro e he
  obtain ⟨d', hd', hname, hw'⟩ := h.fetched.exists_of_result? he
  obtain rfl := List.inj_on_of_nodup_map h.names hd' hd hname
  rw [hw] at hw'
  cases hw'

/-- **A statement written by hand is run as it stands.** In any two answers to the same batch the
same statement was run for its descriptor, and from the same result comes the same entry up to the
time, if its fetch failed in neither. A fetch can fail only if the descriptor wants a vector, and
without a service it always does; then the statement is not run. -/
theorem written_eq_of_fetched (settings : Settings) (batch : List Json) (ds : List Descriptor)
    (d : Descriptor) (s : String) (hb : Batch.accept batch = .ok ds) (hd : d ∈ ds)
    (hx : d.isExecuted = true) (hs : d.statement? = some s) :
    (∀ embedder store cancelAt a, query settings embedder store cancelAt batch = some a →
      ∃ turns, Serves settings embedder.isSome batch turns a) ∧
    (∀ hasService turns a fields, Serves settings hasService batch turns a →
      a.result = .ok (.object fields) → WrittenEntry d s a fields ∧
        (d.wantsEmbedding = false → a.HasFetched d.name) ∧
        (d.wantsEmbedding = true → hasService = false → ¬ a.HasFetched d.name)) ∧
    ∀ hasService hasService' turns turns' a a' fields fields',
      Serves settings hasService batch turns a → a.result = .ok (.object fields) →
      Serves settings hasService' batch turns' a' → a'.result = .ok (.object fields') →
      a.HasFetched d.name → a'.HasFetched d.name →
      a.handed? d.name = a'.handed? d.name ∧ (a.executed? d.name = a'.executed? d.name →
        (Keyed.get? d.name fields).map Json.withoutTook =
          (Keyed.get? d.name fields').map Json.withoutTook) := by
  have hmem : d ∈ executed ds := List.mem_filter.mpr ⟨hd, hx⟩
  have hanswered : ∀ {hasService turns a fields}, Serves settings hasService batch turns a →
      a.result = .ok (.object fields) → Answered settings hasService (executed ds) a fields := by
    intro _ _ _ _ h hr
    obtain ⟨ds', _, hb', hfields, hall⟩ := answered_of_serves h hr
    cases hb.symm.trans hb'
    cases hfields
    exact hall
  refine ⟨fun _ _ _ _ => exists_serves, fun hasService turns a fields h hr => ?_,
    fun _ _ _ _ a a' fields fields' h hr h' hr' => ?_⟩
  · have hall := hanswered h hr
    refine ⟨hall.writtenEntry hmem hs, hall.hasFetched hmem, fun hw hnone => ?_⟩
    subst hnone
    exact hall.not_hasFetched hmem hx hw
  · exact ((hanswered h hr).writtenEntry hmem hs).eq_of_fetched
      ((hanswered h' hr').writtenEntry hmem hs)

theorem exists_fields_of_isOk {embedder : Option Embedder} {store : Store} {cancelAt : Option Nat}
    {batch : List Json} (h : query settings embedder store cancelAt batch = some a)
    (hok : a.result.isOk = true) : ∃ fields, a.result = .ok (.object fields) := by
  obtain ⟨turns, hserves⟩ := exists_serves h
  cases hr : a.result with
  | error e =>
    rw [hr] at hok
    cases hok
  | ok response =>
    obtain ⟨-, fields, -, rfl, -⟩ := answered_of_serves hserves hr
    exact ⟨fields, rfl⟩

/-- A search with a statement written by hand that names a column for vectors. -/
def writtenBatch : List Json := [
  .object [("defaultQuery", .object [("query", .string "SELECT title FROM books")]),
    ("id", .string "titles"), ("table", .string "books"), ("value", .string "dune"),
    ("vectorDataField", .string "v")]]

/-- Two services give different vectors, and the same is run and answered. -/
theorem written_eq_of_fetched_constant : ∃ ds d a a' fields fields',
    Batch.accept writtenBatch = .ok ds ∧ d ∈ ds ∧ d.isExecuted = true ∧ d.name = "titles" ∧
    d.wantsEmbedding = true ∧ d.statement? = some "SELECT title FROM books" ∧
    query .default (some (constantEmbedder [.zero])) emptyStore none writtenBatch = some a ∧
    query .default (some (constantEmbedder [.one])) emptyStore none writtenBatch = some a' ∧
    a.result = .ok (.object fields) ∧ a'.result = .ok (.object fields') ∧
    a.handed? "titles" = some ⟨"SELECT title FROM books", []⟩ ∧
    a.handed? "titles" = a'.handed? "titles" ∧
    (Keyed.get? "titles" fields).map Json.withoutTook =
      (Keyed.get? "titles" fields').map Json.withoutTook := by
  have hbatch : (Batch.accept writtenBatch).map (fun ds => ds.map fun d =>
      (d.isExecuted, d.name, d.wantsEmbedding, d.statement?)) =
      .ok [(true, "titles", true, some "SELECT title FROM books")] := by
    decide +kernel
  have hzero : (query .default (some (constantEmbedder [.zero])) emptyStore none writtenBatch).map
      (fun a => (a.result.isOk, a.fetches.results)) = some (true, [("titles", .ok [.zero])]) := by
    decide +kernel
  have hone : (query .default (some (constantEmbedder [.one])) emptyStore none writtenBatch).map
      (fun a => (a.result.isOk, a.fetches.results)) = some (true, [("titles", .ok [.one])]) := by
    decide +kernel
  have hcalls : (query .default (some (constantEmbedder [.zero])) emptyStore none writtenBatch).map
      (Answer.executed? "titles") =
      (query .default (some (constantEmbedder [.one])) emptyStore none writtenBatch).map
        (Answer.executed? "titles") := by
    decide +kernel
  obtain ⟨ds, hb, hds⟩ := map_eq_ok.mp hbatch
  obtain ⟨d, rfl, hd⟩ := List.map_eq_singleton_iff.mp hds
  simp only [Prod.mk.injEq] at hd
  obtain ⟨hx, hname, hw, hs⟩ := hd
  obtain ⟨answers, each, eq⟩ :=
    written_eq_of_fetched .default writtenBatch [d] d _ hb List.mem_cons_self hx hs
  obtain ⟨a, ha, hvalues⟩ := Option.map_eq_some_iff.mp hzero
  obtain ⟨a', ha', hvalues'⟩ := Option.map_eq_some_iff.mp hone
  obtain ⟨hok, hresults⟩ := Prod.mk.inj hvalues
  obtain ⟨hok', hresults'⟩ := Prod.mk.inj hvalues'
  rw [ha, ha', Option.map_some, Option.map_some, Option.some.injEq] at hcalls
  obtain ⟨fields, hfields⟩ := exists_fields_of_isOk ha hok
  obtain ⟨fields', hfields'⟩ := exists_fields_of_isOk ha' hok'
  obtain ⟨turns, hserves⟩ := answers _ _ _ _ ha
  obtain ⟨turns', hserves'⟩ := answers _ _ _ _ ha'
  have hfetched : a.HasFetched d.name := by
    intro e he
    rw [EmbeddingStage.result?, hresults, hname] at he
    cases he
  have hfetched' : a'.HasFetched d.name := by
    intro e he
    rw [EmbeddingStage.result?, hresults', hname] at he
    cases he
  obtain ⟨hhanded, hentries⟩ :=
    eq _ _ _ _ _ _ _ _ hserves hfields hserves' hfields' hfetched hfetched'
  have hstatement := (((each _ _ _ _ hserves hfields).1).fetched hfetched).1
  rw [hname] at hhanded hentries hstatement
  exact ⟨[d], d, a, a', fields, fields', hb, List.mem_cons_self, hx, hname, hw, hs, ha, ha',
    hfields, hfields', hstatement, hhanded, hentries hcalls⟩

/-- **Without a service the statement is not run**, which with one it is; the entry says that there
is no service. -/
theorem written_lost_without_service :
    (Batch.accept writtenBatch).map (fun ds => ds.map fun d =>
      (d.isExecuted, d.name, d.statement?)) =
      .ok [(true, "titles", some "SELECT title FROM books")] ∧
    ∃ a a',
      query .default (some (constantEmbedder [.one])) emptyStore none writtenBatch = some a ∧
      query .default none emptyStore none writtenBatch = some a' ∧
      a.result.isOk = true ∧ a.handed? "titles" = some ⟨"SELECT title FROM books", []⟩ ∧
      a'.result = .ok (.object [("settings", .object [("took", encodeTook .one)]),
        ("titles", errorEntry "titles" "No embedding service configured" 502 .zero)]) ∧
      a'.handed? "titles" = none := by
  refine ⟨by decide +kernel, ?_⟩
  have hserved : (query .default (some (constantEmbedder [.one])) emptyStore none writtenBatch).map
      (fun a => (a.result.isOk, a.handed? "titles")) =
      some (true, some ⟨"SELECT title FROM books", []⟩) := by
    decide +kernel
  have hlost : (query .default none emptyStore none writtenBatch).map
      (fun a => (a.result, a.handed? "titles")) =
      some (.ok (.object [("settings", .object [("took", encodeTook .one)]),
        ("titles", errorEntry "titles" "No embedding service configured" 502 .zero)]), none) := by
    decide +kernel
  obtain ⟨a, ha, hvalues⟩ := Option.map_eq_some_iff.mp hserved
  obtain ⟨a', ha', hvalues'⟩ := Option.map_eq_some_iff.mp hlost
  obtain ⟨hok, hhanded⟩ := Prod.mk.inj hvalues
  obtain ⟨hresult, hnone⟩ := Prod.mk.inj hvalues'
  exact ⟨a, a', ha, ha', hok, hhanded, hresult, hnone⟩

end Engine

end QueryBatch
