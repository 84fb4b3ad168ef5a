import QueryBatch.Proofs.Fetches

/-! # The entries of an answer

The answer to a batch has one entry for each descriptor that takes part, under its name, and one
entry for the batch. The entry of a descriptor depends on that descriptor, on its own fetch and on
its own call, and on nothing else; but for the times that it tells, what becomes of one descriptor
makes no difference to any other.

* `Descriptor.AsksForNothing`: the descriptors whose entry is null.
* `Engine.EntryOf`: how the entry of a descriptor comes about.
* `Engine.Complete`, `Engine.answered_of_serves`: **the answer is complete**.
* `Engine.entries_complete_isolated`: **it is complete, and failures are isolated**.
-/

namespace QueryBatch

open Outcome

/-! ### Entries up to the time -/

/-- A value without the time that it tells. -/
def Json.withoutTook : Json → Json
  | .object fields => .object (Keyed.erase "took" fields)
  | j => j

theorem withoutTook_errorEntry (name message : String) (status : Nat) (took took' : Binary64) :
    (errorEntry name message status took).withoutTook =
      (errorEntry name message status took').withoutTook := by
  simp [errorEntry, Json.withoutTook, Keyed.erase]

theorem withoutTook_searchEntry (took took' : Json) (rows : List Row) :
    (searchEntry took rows).withoutTook = (searchEntry took' rows).withoutTook := by
  simp [searchEntry, Json.withoutTook, Keyed.erase]

theorem withoutTook_aggregationEntry (took took' : Json) (aggregations : Keyed Json) :
    (aggregationEntry took aggregations).withoutTook =
      (aggregationEntry took' aggregations).withoutTook := by
  simp [aggregationEntry, Json.withoutTook, Keyed.erase]

/-- The answer is null for rows of this shape. -/
def Shape.isNothing : Shape → Bool
  | .range s => s.isEmpty
  | _ => false

theorem Shape.entry_cases (shape : Shape) (rows : List Row) :
    (shape.isNothing = true ∧ ∀ took, shape.entry took rows = .null) ∨
    shape.isNothing = false ∧ ((∀ took, shape.entry took rows = searchEntry took rows) ∨
      ∃ aggregations, ∀ took, shape.entry took rows = aggregationEntry took aggregations) := by
  cases shape with
  | search => exact .inr ⟨rfl, .inl fun _ => rfl⟩
  | term field => exact .inr ⟨rfl, .inr ⟨_, fun _ => rfl⟩⟩
  | range s =>
    cases hs : s.isEmpty with
    | true => exact .inl ⟨hs, fun _ => by rw [entry, if_pos hs]⟩
    | false =>
      have hnot : ¬ s.isEmpty = true := by rw [hs]; exact Bool.false_ne_true
      exact .inr ⟨hs, .inr ⟨_, fun _ => by rw [entry, if_neg hnot]⟩⟩
  | written kind field =>
    refine .inr ⟨rfl, ?_⟩
    cases kind with
    | search => exact .inl fun _ => rfl
    | suggestion => exact .inl fun _ => rfl
    | term =>
      cases field with
      | none => exact .inl fun _ => rfl
      | some field => exact .inr ⟨_, fun _ => rfl⟩
    | range => exact .inr ⟨_, fun _ => rfl⟩

theorem Shape.withoutTook_entry (shape : Shape) (rows : List Row) (took took' : Json) :
    (shape.entry took rows).withoutTook = (shape.entry took' rows).withoutTook := by
  rcases shape.entry_cases rows with ⟨-, h⟩ | ⟨-, h | ⟨aggregations, h⟩⟩
  · rw [h, h]
  · rw [h, h, withoutTook_searchEntry]
  · rw [h, h, withoutTook_aggregationEntry]

theorem Shape.entry_eq_null_iff {shape : Shape} {took : Json} {rows : List Row} :
    shape.entry took rows = .null ↔ shape.isNothing = true := by
  rcases shape.entry_cases rows with ⟨hn, h⟩ | ⟨hn, h | ⟨aggregations, h⟩⟩
  · simp [hn, h]
  · simp [hn, h, searchEntry]
  · simp [hn, h, aggregationEntry]

theorem Shape.entry_ne_errorEntry (shape : Shape) (took : Json) (rows : List Row)
    (name message : String) (status : Nat) (took' : Binary64) :
    shape.entry took rows ≠ errorEntry name message status took' := by
  rcases shape.entry_cases rows with ⟨-, h⟩ | ⟨-, h | ⟨aggregations, h⟩⟩
  · simp [h, errorEntry]
  · simp [h, errorEntry, searchEntry]
  · simp [h, errorEntry, aggregationEntry]

theorem message_eq_of_errorEntry_eq {name name' message message' : String} {status status' : Nat}
    {took took' : Binary64}
    (h : errorEntry name message status took = errorEntry name' message' status' took') :
    message = message' ∧ Json.ofNat status = Json.ofNat status' := by
  simp [errorEntry] at h
  exact ⟨h.1, h.2.2.1⟩

/-! ### Descriptors that ask for nothing -/

/-- **A descriptor asks for nothing** if it is a range query that names no aggregation and has no
statement written by hand. -/
def Descriptor.AsksForNothing (d : Descriptor) : Prop :=
  d.kindOrDefault = .range ∧ d.aggregations.getD [] = [] ∧ d.statement? = none

theorem RangeQuery.isNothing_of_compile {q : RangeQuery} {c : Compiled} (h : q.compile = .ok c) :
    (c.shape.isNothing = true ↔ q.aggregations = []) ∧
      (q.aggregations = [] → c.statement = none) := by
  unfold compile at h
  split at h
  · next hnone =>
    cases h
    exact ⟨iff_of_true rfl (List.isEmpty_iff.mp hnone), fun _ => rfl⟩
  · next hsome =>
    have hne : q.aggregations ≠ [] := fun ha => hsome (List.isEmpty_iff.mpr ha)
    split at h
    · cases h
    · cases h
    · obtain ⟨_, -, h⟩ := bind_eq_ok.mp h
      obtain ⟨_, -, h⟩ := bind_eq_ok.mp h
      obtain ⟨_, -, h⟩ := bind_eq_ok.mp h
      cases h
      exact ⟨iff_of_false Bool.false_ne_true hne, fun ha => absurd ha hne⟩

/-- The answer is null if and only if the descriptor asks for nothing, and then nothing is run. -/
theorem Descriptor.isNothing_of_compile {d : Descriptor} {embedded : Option (List Binary64)}
    {defaultSize : Nat} {countsRows : Bool} {c : String × Compiled}
    (h : d.compile embedded defaultSize countsRows = .ok c) :
    (c.2.shape.isNothing = true ↔ d.AsksForNothing) ∧
      (d.AsksForNothing → c.2.statement = none) := by
  obtain ⟨-, q, -, hq, hc⟩ := compile_eq_ok h
  generalize c.2 = compiled at hc ⊢
  have hother : compiled.shape.isNothing = false → ¬ d.AsksForNothing →
      (compiled.shape.isNothing = true ↔ d.AsksForNothing) ∧
        (d.AsksForNothing → compiled.statement = none) :=
    fun hn ha => ⟨iff_of_false (by rw [hn]; exact Bool.false_ne_true) ha, fun h => absurd h ha⟩
  cases hq with
  | written hs =>
    cases hc
    refine hother rfl fun ha => ?_
    rw [ha.2.2] at hs
    cases hs
  | search hs hk =>
    obtain ⟨_, -, hc⟩ := bind_eq_ok.mp hc
    cases hc
    refine hother rfl fun ha => ?_
    rw [ha.1] at hk
    rcases hk with hk | hk <;> cases hk
  | term hs hk =>
    simp only [Query.compile, TermQuery.compile] at hc
    split at hc
    · cases hc
    · cases hc
      refine hother rfl fun ha => ?_
      rw [ha.1] at hk
      cases hk
  | range hs hk =>
    obtain ⟨hnothing, hunasked⟩ := RangeQuery.isNothing_of_compile hc
    exact ⟨hnothing.trans ⟨fun ha => ⟨hk, ha, hs⟩, fun ha => ha.2.1⟩, fun ha => hunasked ha.2.1⟩

/-! ### How an entry comes about -/

/-- **The result of the call** of the query with a name. -/
def Answer.executed? (k : String) (a : Answer) : Option (Except ExecutionError (List Row)) :=
  Keyed.get? k (a.settled.map fun r => (r.name, r.result))

theorem Answer.executed?_eq_none_iff {k : String} {a : Answer} :
    a.executed? k = none ↔ k ∉ a.settled.map Settled.name := by
  rw [executed?, Keyed.get?_eq_none_iff, List.map_map]
  exact Iff.rfl

theorem Answer.executed?_of_mem {r : Settled} {a : Answer}
    (hn : (a.settled.map Settled.name).Nodup) (hr : r ∈ a.settled) :
    a.executed? r.name = some r.result := by
  refine Keyed.get?_of_mem ?_ (List.mem_map_of_mem hr)
  rw [List.map_map]
  exact hn

namespace Engine

/-- **How the entry of a descriptor comes about**: its fetch has failed, and nothing of it was run;
or it was compiled with its own vector, and its call has settled. -/
inductive EntryOf (settings : Settings) (a : Answer) (d : Descriptor) : Json → Prop
  | unfetched {e : EmbeddingError} {took : Binary64} (hw : d.wantsEmbedding = true)
    (hf : a.fetches.result? d.name = some (.error e)) (hx : a.executed? d.name = none) :
    EntryOf settings a d (errorEntry d.name e.message embeddingFailureStatus took)
  | settled {c : Compiled} {r : Except ExecutionError (List Row)} {took : Binary64}
    (hf : ∀ e, a.fetches.result? d.name ≠ some (.error e))
    (hc : d.compile (a.fetches.vector? d.name) settings.defaultSize true = .ok (d.name, c))
    (hx : a.executed? d.name = some r) (hn : c.statement = none → r = .ok []) :
    EntryOf settings a d (Response.entry ⟨d.name, r, took, c.shape⟩)

/-- **What the entry of a descriptor is.** -/
structure EntryFor (settings : Settings) (a : Answer) (d : Descriptor) (j : Json) : Prop where
  /-- It tells of a fetch that failed if and only if the own one did. -/
  unfetched : ∀ message, (∃ took, j = errorEntry d.name message 502 took) ↔
    ∃ e, a.fetches.result? d.name = some (.error e) ∧ e.message = message
  /-- It tells of a call that failed if and only if the own one did. -/
  failed : ∀ message, (∃ took, j = errorEntry d.name message 500 took) ↔
    ∃ e, a.executed? d.name = some (.error e) ∧ e.message = message
  /-- It is null if and only if nothing was asked for. -/
  null : j = .null ↔ d.AsksForNothing
  /-- Otherwise it has the own rows, in the own shape. -/
  rows : (∀ e, a.fetches.result? d.name ≠ some (.error e)) →
    (∀ e, a.executed? d.name ≠ some (.error e)) → ¬ d.AsksForNothing →
    ∃ c rows took,
      d.compile (a.fetches.vector? d.name) settings.defaultSize true = .ok (d.name, c) ∧
      a.executed? d.name = some (.ok rows) ∧ j = c.shape.entry took rows

variable {settings : Settings} {a a' : Answer} {d : Descriptor} {j j' : Json}

theorem not_asksForNothing_of_wantsEmbedding (h : d.wantsEmbedding = true) :
    ¬ d.AsksForNothing := by
  rintro ⟨hk, -, -⟩
  simp [Descriptor.wantsEmbedding, hk] at h

theorem errorEntry_502_ne_500 (name name' message message' : String) (took took' : Binary64) :
    errorEntry name message 502 took ≠ errorEntry name' message' 500 took' := fun h =>
  absurd (message_eq_of_errorEntry_eq h).2 (by decide)

theorem EntryOf.entryFor (h : EntryOf settings a d j) : EntryFor settings a d j := by
  cases h with
  | @unfetched e took hw hf hx =>
    refine ⟨fun message => ⟨?_, ?_⟩, fun message => ⟨?_, ?_⟩,
      iff_of_false (by simp [errorEntry]) (not_asksForNothing_of_wantsEmbedding hw),
      fun hok => absurd hf (hok e)⟩
    · rintro ⟨_, h⟩
      exact ⟨e, hf, (message_eq_of_errorEntry_eq h).1⟩
    · rintro ⟨e', he', rfl⟩
      cases hf.symm.trans he'
      exact ⟨took, rfl⟩
    · rintro ⟨_, h⟩
      exact absurd h (errorEntry_502_ne_500 _ _ _ _ _ _)
    · rintro ⟨e', he', -⟩
      cases hx.symm.trans he'
  | @settled c r took hf hc hx hn =>
    obtain ⟨hnothing, hunasked⟩ := Descriptor.isNothing_of_compile hc
    cases r with
    | error e =>
      refine ⟨fun message => ⟨?_, ?_⟩, fun message => ⟨?_, ?_⟩, iff_of_false nofun fun ha => ?_,
        fun _ hok => absurd hx (hok e)⟩
      · rintro ⟨_, h⟩
        exact absurd h.symm (errorEntry_502_ne_500 _ _ _ _ _ _)
      · rintro ⟨e', he', -⟩
        exact absurd he' (hf e')
      · rintro ⟨_, h⟩
        exact ⟨e, hx, (message_eq_of_errorEntry_eq h).1⟩
      · rintro ⟨e', he', rfl⟩
        cases hx.symm.trans he'
        exact ⟨took, rfl⟩
      · cases hn (hunasked ha)
    | ok found =>
      refine ⟨fun message => ⟨?_, ?_⟩, fun message => ⟨?_, ?_⟩,
        Shape.entry_eq_null_iff.trans hnothing, fun _ _ _ => ⟨c, found, _, hc, hx, rfl⟩⟩
      · rintro ⟨_, h⟩
        exact absurd h (Shape.entry_ne_errorEntry _ _ _ _ _ _ _)
      · rintro ⟨e', he', -⟩
        exact absurd he' (hf e')
      · rintro ⟨_, h⟩
        exact absurd h (Shape.entry_ne_errorEntry _ _ _ _ _ _ _)
      · rintro ⟨e', he', -⟩
        cases hx.symm.trans he'

/-- **Two entries of a descriptor** that come from the same own results are the same up to the
time. -/
theorem EntryOf.withoutTook_eq (h : EntryOf settings a d j) (h' : EntryOf settings a' d j')
    (hf : a.fetches.result? d.name = a'.fetches.result? d.name)
    (hv : a.fetches.vector? d.name = a'.fetches.vector? d.name)
    (hx : a.executed? d.name = a'.executed? d.name) : j.withoutTook = j'.withoutTook := by
  cases h with
  | unfetched _ he =>
    cases h' with
    | unfetched _ he' =>
      cases he.symm.trans (hf.trans he')
      exact withoutTook_errorEntry _ _ _ _ _
    | settled hok => exact absurd (hf.symm.trans he) (hok _)
  | @settled c r took hok hc hr =>
    cases h' with
    | unfetched _ he' => exact absurd (hf.trans he') (hok _)
    | settled _ hc' hr' =>
      cases hr.symm.trans (hx.trans hr')
      rw [hv, hc'] at hc
      cases hc
      cases r with
      | error e => exact withoutTook_errorEntry _ _ _ _ _
      | ok found => exact Shape.withoutTook_entry _ _ _ _

/-! ### The entries of an answer -/

/-- The entry of a descriptor whose fetch failed, under its name. -/
def failureEntry (stage : EmbeddingStage) (f : String × EmbeddingError) : String × Json :=
  (f.1, errorEntry f.1 f.2.message embeddingFailureStatus (Duration.ofMillis stage.took).inMillis)

/-- The entries of the descriptors, first those whose fetches failed. -/
def entries (stage : EmbeddingStage) (settled : List Settled) : List (String × Json) :=
  stage.failures.map (failureEntry stage) ++ settled.map fun r => (r.name, r.response.entry)

def batchEntry (stage : EmbeddingStage) (settled : List Settled) : Json :=
  .object [("took", encodeTook (Duration.ofMillis (took stage settled)).inMillis)]

def fields (stage : EmbeddingStage) (settled : List Settled) : Keyed Json :=
  Keyed.insert Batch.settingsKey (batchEntry stage settled) (Keyed.ofList (entries stage settled))

theorem envelope_eq (stage : EmbeddingStage) (settled : List Settled) :
    envelope stage settled = .object (fields stage settled) := by
  rw [fields, entries, Keyed.ofList, List.foldl_append, List.foldl_map, List.foldl_map, envelope,
    List.foldl_map]
  rfl

theorem get?_settingsKey_fields (stage : EmbeddingStage) (settled : List Settled) :
    Keyed.get? Batch.settingsKey (fields stage settled) = some (batchEntry stage settled) :=
  Keyed.get?_insert_self _ _ _

theorem perm_fields {stage : EmbeddingStage} {settled : List Settled}
    (hn : (Batch.settingsKey :: (entries stage settled).map Prod.fst).Nodup) :
    (fields stage settled).Perm
      ((Batch.settingsKey, batchEntry stage settled) :: entries stage settled) := by
  obtain ⟨hsettings, hnames⟩ := List.nodup_cons.mp hn
  have hlist := Keyed.perm_ofList hnames
  have hnew : Batch.settingsKey ∉ (Keyed.ofList (entries stage settled)).map Prod.fst :=
    fun hm => hsettings ((hlist.map Prod.fst).subset hm)
  exact (Keyed.perm_insert hnew).trans (hlist.cons _)

variable {settings : Settings} {stage : EmbeddingStage} {hasService : Bool}
  {ds : List Descriptor} {compiled : List (String × Compiled)} {settled : List Settled}

/-- A descriptor, and what became of it. -/
def SettledAs (settings : Settings) (stage : EmbeddingStage) (d : Descriptor)
    (r : Settled) : Prop :=
  ∃ c, d.compile (stage.vector? d.name) settings.defaultSize true = .ok (d.name, c) ∧
    r.IsOf (d.name, c)

theorem forall₂_settledAs (hc : compileAll settings stage ds = .ok compiled)
    (hs : List.Forall₂ Settled.IsOf compiled settled) :
    List.Forall₂ (SettledAs settings stage) (ds.filter fun d => !stage.hasFailed d.name) settled :=
  forall₂_trans (mapM_eq_ok.mp hc) hs fun d c r hd hr => by
    obtain ⟨name, c⟩ := c
    obtain rfl : name = d.name := (Descriptor.compile_eq_ok hd).1
    exact ⟨c, hd, hr⟩

theorem map_fst_entries (stage : EmbeddingStage) (settled : List Settled) :
    (entries stage settled).map Prod.fst =
      stage.failures.map Prod.fst ++ settled.map Settled.name := by
  rw [entries, List.map_append, List.map_map, List.map_map]
  rfl

/-- **The entries are those of the descriptors that take part**, each under its name. -/
theorem perm_entries (hf : stage.IsFor hasService ds) (hn : (ds.map Descriptor.name).Nodup)
    (hs : List.Forall₂ (SettledAs settings stage) (ds.filter fun d => !stage.hasFailed d.name)
      settled) :
    ((entries stage settled).map Prod.fst).Perm (ds.map Descriptor.name) := by
  have hsettled : settled.map Settled.name =
      (ds.filter fun d => !stage.hasFailed d.name).map Descriptor.name :=
    (map_eq_of_forall₂ hs fun d r ⟨c, _, hr⟩ => hr.name.symm).symm
  have hpartition := (List.filter_append_perm (fun d => stage.hasFailed d.name) ds).map
    Descriptor.name
  rw [map_fst_entries, hsettled]
  rw [List.map_append] at hpartition
  exact ((hf.perm_failures hn).append_right _).trans hpartition

variable {a : Answer} {d : Descriptor}

theorem exists_entryOf_of_hasFailed (hd : d ∈ ds) (hf : a.fetches.IsFor hasService ds)
    (hn : (ds.map Descriptor.name).Nodup)
    (hkeys : ((entries a.fetches a.settled).map Prod.fst).Nodup)
    (hfailed : a.fetches.hasFailed d.name = true) :
    ∃ j, (d.name, j) ∈ entries a.fetches a.settled ∧ EntryOf settings a d j := by
  obtain ⟨e, he⟩ := (EmbeddingStage.hasFailed_iff (hf.nodup_results hn)).mp hfailed
  obtain ⟨d', hd', hname, hw⟩ := hf.exists_of_result? he
  obtain rfl := List.inj_on_of_nodup_map hn hd' hd hname
  have hmem : (d'.name, e) ∈ a.fetches.failures :=
    EmbeddingStage.mem_failures.mpr (Keyed.mem_of_get?_eq_some he)
  rw [map_fst_entries] at hkeys
  refine ⟨_, List.mem_append_left _ (List.mem_map_of_mem hmem), .unfetched hw he ?_⟩
  rw [Answer.executed?_eq_none_iff]
  intro hm
  exact (List.nodup_append.mp hkeys).2.2 _ (List.mem_map_of_mem hmem) _ hm rfl

theorem exists_entryOf_of_settledAs {r : Settled} (hf : a.fetches.IsFor hasService ds)
    (hn : (ds.map Descriptor.name).Nodup)
    (hkeys : ((entries a.fetches a.settled).map Prod.fst).Nodup)
    (hfailed : a.fetches.hasFailed d.name = false) (hr : r ∈ a.settled)
    (hs : SettledAs settings a.fetches d r) :
    ∃ j, (d.name, j) ∈ entries a.fetches a.settled ∧ EntryOf settings a d j := by
  obtain ⟨c, hc, hof⟩ := hs
  have hname : r.name = d.name := hof.name
  have hresponse :
      r.response = ⟨d.name, r.result, (Duration.ofMillis r.took).inMillis, c.shape⟩ := by
    rw [← hname, ← hof.shape]
    rfl
  rw [map_fst_entries] at hkeys
  refine ⟨r.response.entry, List.mem_append_right _ (List.mem_map.mpr ⟨r, hr, by rw [hname]⟩), ?_⟩
  rw [hresponse]
  refine .settled (fun e he => ?_) hc ?_ fun hnone => ?_
  · rw [(EmbeddingStage.hasFailed_iff (hf.nodup_results hn)).mpr ⟨e, he⟩] at hfailed
    cases hfailed
  · rw [← hname]
    exact Answer.executed?_of_mem (List.nodup_append.mp hkeys).2.1 hr
  · have hstatement := hof.statement
    rw [hnone, Option.map_eq_none_iff] at hstatement
    exact Settled.result_of_no_call hstatement

theorem exists_entryOf (hd : d ∈ ds) (hf : a.fetches.IsFor hasService ds)
    (hn : (ds.map Descriptor.name).Nodup)
    (hs : List.Forall₂ (SettledAs settings a.fetches)
      (ds.filter fun d => !a.fetches.hasFailed d.name) a.settled) :
    ∃ j, (d.name, j) ∈ entries a.fetches a.settled ∧ EntryOf settings a d j := by
  have hkeys := (perm_entries hf hn hs).nodup_iff.mpr hn
  cases hfailed : a.fetches.hasFailed d.name with
  | true => exact exists_entryOf_of_hasFailed hd hf hn hkeys hfailed
  | false =>
    have htaken : d ∈ ds.filter fun d => !a.fetches.hasFailed d.name :=
      List.mem_filter.mpr ⟨hd, by rw [hfailed]; rfl⟩
    obtain ⟨r, hr, hsettled⟩ := exists_of_forall₂_left hs htaken
    exact exists_entryOf_of_settledAs hf hn hkeys hfailed hr hsettled

/-! ### Answers -/

/-- **The fields of an answer**: one for the batch, and one for each descriptor that takes part. -/
structure Answered (settings : Settings) (hasService : Bool) (ds : List Descriptor) (a : Answer)
    (fields : Keyed Json) : Prop where
  names : (ds.map Descriptor.name).Nodup
  fetched : a.fetches.IsFor hasService ds
  keys : fields.keys.Perm (Batch.settingsKey :: ds.map Descriptor.name)
  nodup : fields.keys.Nodup
  batch : ∃ took, Keyed.get? Batch.settingsKey fields = some (.object [("took", took)])
  settled : List.Forall₂ (SettledAs settings a.fetches)
    (ds.filter fun d => !a.fetches.hasFailed d.name) a.settled
  each : ∀ d ∈ ds, ∃ j, Keyed.get? d.name fields = some j ∧ EntryOf settings a d j

theorem nodup_executed {batch : List Json} {ds : List Descriptor}
    (hb : Batch.accept batch = .ok ds) : ((executed ds).map Descriptor.name).Nodup :=
  (Batch.nodup_names hb).sublist (List.filter_sublist.map _)

theorem answered_of_serves {batch : List Json} {turns : List Turn} {a : Answer} {response : Json}
    (h : Serves settings hasService batch turns a) (hr : a.result = .ok response) :
    ∃ ds fields, Batch.accept batch = .ok ds ∧ response = .object fields ∧
      Answered settings hasService (executed ds) a fields := by
  cases h with
  | rejected => cases hr
  | uncompiled => cases hr
  | @served ds stage compiled env turns s settled hb hf hc hrun ho hs =>
    cases hr
    have hnames := nodup_executed hb
    have hsettled := forall₂_settledAs hc (hrun.forall₂_isOf ho hs)
    have hentries := perm_entries hf hnames hsettled
    have hsettings : Batch.settingsKey ∉ (executed ds).map Descriptor.name := fun hm =>
      Batch.settingsKey_not_mem_names hb ((List.filter_sublist.map _).subset hm)
    have hnodup := List.nodup_cons.mpr ⟨hsettings, hnames⟩
    have hperm := perm_fields ((hentries.cons Batch.settingsKey).nodup_iff.mpr hnodup)
    have hkeys : (fields stage settled).keys.Perm
        (Batch.settingsKey :: (executed ds).map Descriptor.name) :=
      (hperm.map Prod.fst).trans (hentries.cons _)
    refine ⟨ds, fields stage settled, hb, envelope_eq stage settled, hnames, hf, hkeys,
      hkeys.nodup_iff.mpr hnodup, ⟨_, get?_settingsKey_fields stage settled⟩, hsettled,
      fun d hd => ?_⟩
    obtain ⟨j, hj, hentry⟩ := exists_entryOf (a := ⟨.ok (envelope stage settled),
      batchEvents stage settled, stage, settled⟩) hd hf hnames hsettled
    exact ⟨j, Keyed.get?_of_mem (hkeys.nodup_iff.mpr hnodup)
      (hperm.mem_iff.mpr (List.mem_cons_of_mem _ hj)), hentry⟩

/-- **Failures are isolated**: two answers to the same descriptors that come from the same results
for all names but one have the same entries for all names but this one, up to the time. -/
theorem Answered.withoutTook_eq {hasService' : Bool} {a a' : Answer} {fields fields' : Keyed Json}
    {name k : String} (h : Answered settings hasService ds a fields)
    (h' : Answered settings hasService' ds a' fields')
    (heq : ∀ k, k ≠ name →
      a.fetches.result? k = a'.fetches.result? k ∧ a.executed? k = a'.executed? k) (hk : k ≠ name) :
    (Keyed.get? k fields).map Json.withoutTook = (Keyed.get? k fields').map Json.withoutTook := by
  obtain ⟨hf, hx⟩ := heq k hk
  have hnone : ∀ l : Keyed Json, l.keys.Perm (Batch.settingsKey :: ds.map Descriptor.name) →
      k ∉ Batch.settingsKey :: ds.map Descriptor.name → Keyed.get? k l = none := fun l hl hk =>
    Keyed.get?_eq_none_iff.mpr fun hm => hk (hl.subset hm)
  by_cases hmem : k ∈ Batch.settingsKey :: ds.map Descriptor.name
  · rcases List.mem_cons.mp hmem with rfl | hmem
    · obtain ⟨took, ht⟩ := h.batch
      obtain ⟨took', ht'⟩ := h'.batch
      rw [ht, ht']
      simp [Json.withoutTook, Keyed.erase]
    · obtain ⟨d, hd, rfl⟩ := List.mem_map.mp hmem
      obtain ⟨j, hj, hentry⟩ := h.each d hd
      obtain ⟨j', hj', hentry'⟩ := h'.each d hd
      have hv : a.fetches.vector? d.name = a'.fetches.vector? d.name := by
        rw [EmbeddingStage.vector?_eq (h.fetched.nodup_results h.names),
          EmbeddingStage.vector?_eq (h'.fetched.nodup_results h'.names), hf]
      rw [hj, hj', Option.map_some, Option.map_some, hentry.withoutTook_eq hentry' hf hv hx]
  · rw [hnone _ h.keys hmem, hnone _ h'.keys hmem]

/-- **An answer is complete.** -/
structure Complete (settings : Settings) (ds : List Descriptor) (a : Answer) (fields : Keyed Json) :
    Prop where
  /-- Its keys are the names of the descriptors that take part, and the one for the batch. -/
  keys : fields.keys.Perm (Batch.settingsKey :: (executed ds).map Descriptor.name)
  /-- Each of them stands for one. -/
  nodup : (Batch.settingsKey :: (executed ds).map Descriptor.name).Nodup
  /-- The calls are those of the descriptors whose fetches did not fail, each compiled with the own
  vector. -/
  settled : List.Forall₂ (SettledAs settings a.fetches)
    ((executed ds).filter fun d => !a.fetches.hasFailed d.name) a.settled
  /-- Each descriptor has its own entry. -/
  each : ∀ d ∈ executed ds, ∃ j, Keyed.get? d.name fields = some j ∧ EntryFor settings a d j

/-- **Answers are complete, and failures are isolated.** This holds of each way to serve a batch,
and every answer of a query is one of them. -/
theorem entries_complete_isolated (settings : Settings) (batch : List Json) :
    (∀ embedder store cancelAt a, query settings embedder store cancelAt batch = some a →
      ∃ turns, Serves settings embedder.isSome batch turns a) ∧
    (∀ hasService turns a response, Serves settings hasService batch turns a →
      a.result = .ok response → ∃ ds fields, Batch.accept batch = .ok ds ∧
        response = .object fields ∧ Complete settings ds a fields) ∧
    ∀ hasService hasService' turns turns' a a' fields fields' name,
      Serves settings hasService batch turns a → a.result = .ok (.object fields) →
      Serves settings hasService' batch turns' a' → a'.result = .ok (.object fields') →
      (∀ k, k ≠ name →
        a.fetches.result? k = a'.fetches.result? k ∧ a.executed? k = a'.executed? k) →
      ∀ k, k ≠ name →
        (Keyed.get? k fields).map Json.withoutTook =
          (Keyed.get? k fields').map Json.withoutTook := by
  refine ⟨fun _ _ _ _ => exists_serves, fun hasService turns a response h hr => ?_,
    fun _ _ _ _ a a' fields fields' name h hr h' hr' heq k hk => ?_⟩
  · obtain ⟨ds, fields, hb, hresponse, hall⟩ := answered_of_serves h hr
    refine ⟨ds, fields, hb, hresponse, hall.keys, hall.keys.nodup_iff.mp hall.nodup,
      hall.settled, fun d hd => ?_⟩
    obtain ⟨j, hj, hentry⟩ := hall.each d hd
    exact ⟨j, hj, hentry.entryFor⟩
  · obtain ⟨ds, _, hb, hfields, hall⟩ := answered_of_serves h hr
    obtain ⟨ds', _, hb', hfields', hall'⟩ := answered_of_serves h' hr'
    cases hfields
    cases hfields'
    cases hb.symm.trans hb'
    exact hall.withoutTook_eq hall' heq hk

/-- Whether two calls have the same result can be decided. -/
instance : DecidableEq (Except ExecutionError (List Row)) := inferInstance

/-- The three queries of `mixedBatch`, behind one whose vector cannot be fetched. -/
def nearBatch : List Json :=
  .object [("dataField", .string "title"), ("id", .string "near"), ("table", .string "books"),
    ("value", .string "dune"), ("vectorDataField", .string "v")] :: mixedBatch

/-- A store that has no answer to a statement without parameters. -/
def lostStore : Store := fun s =>
  if s.params.isEmpty then ⟨some 3, .error (.failed "no such table")⟩ else ⟨some 5, .rows []⟩

/-- With one store the term query fails, with the other it does not; the other entries are the
same. -/
theorem entries_complete_isolated_near : ∃ ds a a' fields fields',
    query .default none lostStore none nearBatch = some a ∧
    query .default none emptyStore none nearBatch = some a' ∧
    a.result = .ok (.object fields) ∧ a'.result = .ok (.object fields') ∧
    Complete .default ds a fields ∧
    a.fetches.result? "near" = some (.error .unavailable) ∧
    a.executed? "genres" = some (.error (.failed "no such table")) ∧
    a'.executed? "genres" = some (.ok []) ∧
    ∀ k, k ≠ "genres" →
      (Keyed.get? k fields).map Json.withoutTook = (Keyed.get? k fields').map Json.withoutTook := by
  obtain ⟨serves, complete, isolated⟩ := entries_complete_isolated .default nearBatch
  have hlost : (query .default none lostStore none nearBatch).map (fun a =>
      (a.result.isOk, a.fetches.results)) = some (true, [("near", .error .unavailable)]) := by
    decide +kernel
  have hlostCalls : (query .default none lostStore none nearBatch).map (fun a =>
      a.settled.map fun r => (r.name, r.result)) = some [
        ("titles", .ok []), ("genres", .error (.failed "no such table")), ("years", .ok [])] := by
    decide +kernel
  have hempty : (query .default none emptyStore none nearBatch).map (fun a =>
      (a.result.isOk, a.fetches.results)) = some (true, [("near", .error .unavailable)]) := by
    decide +kernel
  have hemptyCalls : (query .default none emptyStore none nearBatch).map (fun a =>
      a.settled.map fun r => (r.name, r.result)) = some [
        ("titles", .ok []), ("genres", .ok []), ("years", .ok [])] := by
    decide +kernel
  obtain ⟨a, ha, hlost⟩ := Option.map_eq_some_iff.mp hlost
  obtain ⟨a', ha', hempty⟩ := Option.map_eq_some_iff.mp hempty
  rw [ha, Option.map_some, Option.some.injEq] at hlostCalls
  rw [ha', Option.map_some, Option.some.injEq] at hemptyCalls
  obtain ⟨hok, hfetches⟩ := Prod.mk.inj hlost
  obtain ⟨hok', hfetches'⟩ := Prod.mk.inj hempty
  obtain ⟨turns, hserves⟩ := serves _ _ _ _ ha
  obtain ⟨turns', hserves'⟩ := serves _ _ _ _ ha'
  cases hr : a.result with
  | error e =>
    rw [hr] at hok
    cases hok
  | ok response =>
    cases hr' : a'.result with
    | error e =>
      rw [hr'] at hok'
      cases hok'
    | ok response' =>
      obtain ⟨ds, fields, -, rfl, hcomplete⟩ := complete _ _ _ _ hserves hr
      obtain ⟨-, fields', -, rfl, -⟩ := complete _ _ _ _ hserves' hr'
      refine ⟨ds, a, a', fields, fields', ha, ha', hr, hr', hcomplete, ?_, ?_, ?_,
        isolated _ _ _ _ _ _ _ _ _ hserves hr hserves' hr' fun k hk => ⟨?_, ?_⟩⟩
      · rw [EmbeddingStage.result?, hfetches]
        rfl
      · rw [Answer.executed?, hlostCalls]
        rfl
      · rw [Answer.executed?, hemptyCalls]
        rfl
      · rw [EmbeddingStage.result?, EmbeddingStage.result?, hfetches, hfetches']
      · rw [Answer.executed?, Answer.executed?, hlostCalls, hemptyCalls]
        simp only [Keyed.get?, if_neg hk]

end Engine

end QueryBatch
