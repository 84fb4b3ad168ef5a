import QueryBatch.Proofs.BatchErrors
import QueryBatch.Proofs.Entries

/-! # Names of vector columns

A batch is translated without vectors, and the name of a vector column stands in no statement
without a vector; so such a name is checked only when the batch is served and a vector has come. All
other checks have been made by then: if a batch can be translated, an unsafe name of a vector column
is the only thing that can make serving it fail.

* `Descriptor.compile_eq_error`: why a translated descriptor does not compile with a vector.
* `Descriptor.IsRefused`, `Engine.FirstRefused`: the descriptors whose vector brings in an unsafe
  name, and the first of them.
* `Engine.error_iff_firstRefused`: **the errors of a batch that can be translated**.
-/

namespace QueryBatch

open Outcome

theorem Outcome.Alike.eq_error_iff {ε α β : Type} {R : α → β → Prop} {x : Except ε α}
    {y : Except ε β} (h : Alike Eq R x y) (e : ε) : x = .error e ↔ y = .error e := by
  cases h with
  | failed he => rw [he, Except.error.injEq, Except.error.injEq]
  | done => exact iff_of_false nofun nofun

namespace Descriptor

variable {d : Descriptor} {embedded : Option (List Binary64)} {defaultSize : Nat} {e : QueryError}

/-- The order by distance fails only for an unsafe name of a column, and only with a vector. -/
theorem resolveVector_eq_error : d.resolveVector embedded = .error e ↔
    ∃ f x r, d.vectorField = some f ∧ d.effectiveVector embedded = some (x :: r) ∧
      Identifier.isSafe f = false ∧ e = .invalidIdentifier f := by
  unfold resolveVector
  split
  · next field x r hf hv =>
    rw [bind_eq_error, Identifier.check_eq_error_iff]
    constructor
    · rintro (⟨hrefused, rfl⟩ | ⟨_, -, h⟩)
      · exact ⟨field, x, r, hf, hv, hrefused, rfl⟩
      · cases h
    · rintro ⟨_, _, _, hf', -, hrefused, rfl⟩
      cases hf.symm.trans hf'
      exact .inl ⟨hrefused, rfl⟩
  · next hnone =>
    refine iff_of_false nofun ?_
    rintro ⟨f, x, r, hf, hv, -⟩
    exact hnone f x r hf hv

theorem compile_eq_of_not_search
    (h : ¬ (d.statement? = none ∧ (d.kindOrDefault = .search ∨ d.kindOrDefault = .suggestion)))
    (embedded' : Option (List Binary64)) (countsRows : Bool) :
    d.compile embedded defaultSize countsRows = d.compile embedded' defaultSize countsRows := by
  unfold compile resolve
  cases hs : d.statement? with
  | some => rfl
  | none =>
    unfold resolveKind
    cases hk : d.kindOrDefault with
    | term | range => rfl
    | search => exact absurd ⟨hs, .inl hk⟩ h
    | suggestion => exact absurd ⟨hs, .inr hk⟩ h

/-- **In a search only the order by distance depends on the vector.** -/
theorem exists_compile_eq_map {c : String × Compiled} (hs : d.statement? = none)
    (hk : d.kindOrDefault = .search ∨ d.kindOrDefault = .suggestion)
    (h : d.compile embedded defaultSize false = .ok c) :
    ∃ f : Option VectorOrder → String × Compiled, ∀ embedded',
      d.compile embedded' defaultSize false = (d.resolveVector embedded').map f := by
  unfold compile resolve at h ⊢
  obtain ⟨named, hn, h⟩ := bind_eq_ok.mp h
  obtain ⟨tables, ht, hn⟩ := bind_eq_ok.mp hn
  obtain ⟨⟨⟩, hf, hn⟩ := bind_eq_ok.mp hn
  obtain ⟨rfl, -⟩ := resolveTables_eq_ok_iff.mp ht
  simp only [hs, resolveKind_of_search hk] at hn
  obtain ⟨q, hq, hn⟩ := bind_eq_ok.mp hn
  obtain ⟨search, hsearch, hq⟩ := map_eq_ok.mp hq
  obtain ⟨⟨⟩, hi, hsearch⟩ := bind_eq_ok.mp hsearch
  obtain ⟨⟨⟩, ho, hsearch⟩ := bind_eq_ok.mp hsearch
  obtain ⟨sortBy, hb, hsearch⟩ := bind_eq_ok.mp hsearch
  obtain ⟨vector, -, hsearch⟩ := bind_eq_ok.mp hsearch
  obtain ⟨value, hm, hsearch⟩ := bind_eq_ok.mp hsearch
  cases hn
  cases hq
  obtain ⟨compiled, hc, -⟩ := bind_eq_ok.mp h
  obtain ⟨⟨tokens, params⟩, htokens, -⟩ := bind_eq_ok.mp hc
  cases hsearch
  -- the conditions are those of the translation, with whatever vector
  have hall : ∀ vector : Option VectorOrder, ∃ compiled : Compiled, Query.compile false (.search {
      tables := d.tableNames, includeFields := d.includedFields, dataFields := d.fieldNames, value
      connective := d.connective.getD .or, sortField := d.sortField, sortBy, vector
      condition := d.condition, size := d.size.getD defaultSize, offset := d.offset }) =
        .ok compiled := by
    intro vector
    refine ⟨_, bind_eq_ok.mpr ⟨_, htokens, rfl⟩⟩
  choose compiledWith hcompiled using hall
  refine ⟨fun vector => (d.name, compiledWith vector), fun embedded' => ?_⟩
  simp only [ht, hf, hs, resolveKind_of_search hk, resolveSearch, hi, ho, hb, hm, bind, Except.bind]
  cases d.resolveVector embedded' with
  | error e => rfl
  | ok vector =>
    have hvector := hcompiled vector
    simp only [Except.map, pure, Except.pure, hvector]

/-- **A vector brings in an unsafe name**: the descriptor is a search without a vector of its own,
and names an unsafe column for the vector that was fetched for it. -/
structure IsRefused (d : Descriptor) (embedded : Option (List Binary64)) (name : String) :
    Prop where
  statement : d.statement? = none
  kind : d.kindOrDefault = .search ∨ d.kindOrDefault = .suggestion
  own : d.vector = none
  fetched : ∃ x r, embedded = some (x :: r)
  field : d.vectorField = some name
  refused : Identifier.isSafe name = false

theorem resolveVector_of_own (h : d.vector ≠ none) (embedded' : Option (List Binary64)) :
    d.resolveVector embedded = d.resolveVector embedded' := by
  rw [resolveVector, resolveVector, effectiveVector_of_own h embedded']

/-- **A translated descriptor does not compile with a vector** if and only if the vector brings in
an unsafe name. -/
theorem compile_eq_error {c : String × Compiled} (h : d.compile none defaultSize false = .ok c) :
    d.compile embedded defaultSize true = .error e ↔
      ∃ name, d.IsRefused embedded name ∧ e = .invalidIdentifier name := by
  rw [← (d.compile_agree embedded defaultSize).eq_error_iff]
  by_cases hsearch : d.statement? = none ∧
      (d.kindOrDefault = .search ∨ d.kindOrDefault = .suggestion)
  · obtain ⟨hs, hk⟩ := hsearch
    obtain ⟨f, hcompile⟩ := exists_compile_eq_map hs hk h
    have hnone : ∀ e, d.resolveVector none ≠ .error e := by
      intro e he
      rw [hcompile, he] at h
      cases h
    rw [hcompile, map_eq_error]
    constructor
    · intro he
      have hown : d.vector = none := by
        by_contra hne
        exact hnone e (resolveVector_of_own hne embedded ▸ he)
      obtain ⟨name, x, r, hf, hv, hrefused, rfl⟩ := resolveVector_eq_error.mp he
      rw [effectiveVector, hown, Option.none_or] at hv
      exact ⟨name, ⟨hs, hk, hown, ⟨x, r, hv⟩, hf, hrefused⟩, rfl⟩
    · rintro ⟨name, hrefused, rfl⟩
      obtain ⟨x, r, hv⟩ := hrefused.fetched
      refine resolveVector_eq_error.mpr ⟨name, x, r, hrefused.field, ?_, hrefused.refused, rfl⟩
      rw [effectiveVector, hrefused.own, Option.none_or, hv]
  · rw [compile_eq_of_not_search hsearch none false, h]
    constructor
    · intro he
      cases he
    · rintro ⟨name, hrefused, -⟩
      exact absurd ⟨hrefused.statement, hrefused.kind⟩ hsearch

end Descriptor

namespace Engine

variable {settings : Settings} {stage : EmbeddingStage} {ds : List Descriptor} {e : QueryError}

/-- **The first descriptor whose vector brings in an unsafe name**, of those that take part. -/
def FirstRefused (stage : EmbeddingStage) (ds : List Descriptor) (name : String) : Prop :=
  ∃ before d after, ds = before ++ d :: after ∧ d.isExecuted = true ∧
    d.IsRefused (stage.vector? d.name) name ∧
    ∀ d' ∈ before, d'.isExecuted = true → ∀ name', ¬ d'.IsRefused (stage.vector? d'.name) name'

/-- The faults of a batch that can be translated are unsafe names that vectors bring in. -/
theorem atFault_iff_isRefused {d : Descriptor} {c : String × Compiled}
    (hn : (stage.results.map Prod.fst).Nodup)
    (hc : d.compile none settings.defaultSize false = .ok c) (hx : d.isExecuted = true) :
    d.AtFault settings stage e ↔
      ∃ name, d.IsRefused (stage.vector? d.name) name ∧ e = .invalidIdentifier name := by
  constructor
  · intro h
    exact (Descriptor.compile_eq_error hc).mp h.error
  · rintro ⟨name, hrefused, rfl⟩
    obtain ⟨x, r, hv⟩ := hrefused.fetched
    exact ⟨hx, EmbeddingStage.hasFailed_eq_false_of_isSome hn (by rw [hv]; rfl),
      (Descriptor.compile_eq_error hc).mpr ⟨name, hrefused, rfl⟩⟩

/-- **The first fault of a batch that can be translated.** -/
theorem firstFault_iff_firstRefused {compiled : List (String × Compiled)}
    (hn : (stage.results.map Prod.fst).Nodup) (ht : translateAll settings ds = .ok compiled) :
    FirstFault settings stage ds e ↔
      ∃ name, FirstRefused stage ds name ∧ e = .invalidIdentifier name := by
  have hfault : ∀ d ∈ ds, d.isExecuted = true → ∀ e, d.AtFault settings stage e ↔
      ∃ name, d.IsRefused (stage.vector? d.name) name ∧ e = .invalidIdentifier name := by
    intro d hd hx e
    obtain ⟨c, -, hc⟩ := exists_of_forall₂_left (mapM_eq_ok.mp ht) (List.mem_filter.mpr ⟨hd, hx⟩)
    exact atFault_iff_isRefused hn hc hx
  constructor
  · rintro ⟨before, d, after, rfl, hd, hbefore⟩
    have hmem : d ∈ before ++ d :: after := List.mem_append_right before List.mem_cons_self
    obtain ⟨name, hrefused, rfl⟩ := (hfault d hmem hd.isExecuted e).mp hd
    refine ⟨name, ⟨before, d, after, rfl, hd.isExecuted, hrefused,
      fun d' hd' hx name' h => ?_⟩, rfl⟩
    exact hbefore d' hd' _
      ((hfault d' (List.mem_append_left _ hd') hx _).mpr ⟨name', h, rfl⟩)
  · rintro ⟨name, ⟨before, d, after, rfl, hx, hrefused, hbefore⟩, rfl⟩
    have hmem : d ∈ before ++ d :: after := List.mem_append_right before List.mem_cons_self
    refine ⟨before, d, after, rfl, (hfault d hmem hx _).mpr ⟨name, hrefused, rfl⟩,
      fun d' hd' e' h => ?_⟩
    obtain ⟨name', hrefused', -⟩ := (hfault d' (List.mem_append_left _ hd') h.isExecuted e').mp h
    exact hbefore d' hd' h.isExecuted name' hrefused'

theorem isFor_of_serves {hasService : Bool} {batch : List Json} {turns : List Turn} {a : Answer}
    (h : Serves settings hasService batch turns a) (hb : Batch.accept batch = .ok ds) :
    a.fetches.IsFor hasService (executed ds) := by
  cases h with
  | rejected hb' =>
    rw [hb] at hb'
    cases hb'
  | uncompiled hb' hs | served hb' hs =>
    cases hb.symm.trans hb'
    exact hs

theorem wantsEmbedding_of_isRefused {hasService : Bool} {d : Descriptor} {name : String}
    (hs : stage.IsFor hasService (executed ds)) (hn : ((executed ds).map Descriptor.name).Nodup)
    (hd : d ∈ executed ds) (h : d.IsRefused (stage.vector? d.name) name) :
    d.wantsEmbedding = true := by
  obtain ⟨x, r, hv⟩ := h.fetched
  have hresult := (EmbeddingStage.vector?_eq_some_iff (hs.nodup_results hn)).mp hv
  obtain ⟨d', hd', hname, hw⟩ := hs.exists_of_result? hresult
  obtain rfl := List.inj_on_of_nodup_map hn hd' hd hname
  exact hw

theorem exists_of_translate {batch : List Json} {compiled : Keyed Compiled}
    (h : (translate settings batch).result = .ok compiled) :
    ∃ ds translated, Batch.accept batch = .ok ds ∧ translateAll settings ds = .ok translated := by
  unfold translate at h
  cases hb : Batch.accept batch with
  | error r =>
    rw [hb] at h
    cases h
  | ok ds =>
    cases hc : translateAll settings ds with
    | error e =>
      simp only [hb, hc] at h
      cases h
    | ok translated => exact ⟨ds, translated, rfl, hc⟩

/-- **The errors of a batch that can be translated** are unsafe names that vectors bring in. -/
theorem error_iff_of_translateAll {hasService : Bool} {batch : List Json} {turns : List Turn}
    {a : Answer} {translated : List (String × Compiled)} (hb : Batch.accept batch = .ok ds)
    (ht : translateAll settings ds = .ok translated)
    (h : Serves settings hasService batch turns a) (e : EngineError) :
    a.result = .error e ↔
      ∃ name, FirstRefused a.fetches ds name ∧ e = .compile (.invalidIdentifier name) := by
  have hn := (isFor_of_serves h hb).nodup_results (nodup_executed hb)
  have herrors := batchErrors_of_serves h
  cases e with
  | validation r =>
    rw [herrors.validation, hb]
    exact iff_of_false nofun fun ⟨_, _, h⟩ => by cases h
  | compile e =>
    rw [herrors.compile ds hb, firstFault_iff_firstRefused hn ht]
    simp only [EngineError.compile.injEq]

/-- **A batch that can be translated** fails to be served only when a vector brings in an unsafe
name, and it fails with the first of them. It is always answered if the descriptors for which
vectors are fetched name safe columns for them. -/
theorem error_iff_firstRefused (settings : Settings) (batch : List Json) (compiled : Keyed Compiled)
    (ht : (translate settings batch).result = .ok compiled) :
    ∃ ds, Batch.accept batch = .ok ds ∧
      (∀ embedder store cancelAt a, query settings embedder store cancelAt batch = some a →
        ∃ turns, Serves settings embedder.isSome batch turns a) ∧
      (∀ hasService turns a, Serves settings hasService batch turns a → ∀ e,
        a.result = .error e ↔
          ∃ name, FirstRefused a.fetches ds name ∧ e = .compile (.invalidIdentifier name)) ∧
      ((∀ d ∈ ds, d.isExecuted = true → d.statement? = none → d.wantsEmbedding = true →
          ∀ name, d.vectorField = some name → Identifier.isSafe name = true) →
        ∀ hasService turns a, Serves settings hasService batch turns a →
          ∃ response, a.result = .ok response) := by
  obtain ⟨ds, translated, hb, hc⟩ := exists_of_translate ht
  refine ⟨ds, hb, fun _ _ _ _ => exists_serves,
    fun hasService turns a h => error_iff_of_translateAll hb hc h, fun hsafe _ _ a h => ?_⟩
  cases hr : a.result with
  | ok response => exact ⟨response, rfl⟩
  | error e =>
    obtain ⟨name, ⟨before, d, after, rfl, hx, hrefused, -⟩, -⟩ :=
      (error_iff_of_translateAll hb hc h e).mp hr
    have hd : d ∈ before ++ d :: after := List.mem_append_right before List.mem_cons_self
    have hw := wantsEmbedding_of_isRefused (isFor_of_serves h hb) (nodup_executed hb)
      (List.mem_filter.mpr ⟨hd, hx⟩) hrefused
    have hname := hsafe d hd hx hrefused.statement hw name hrefused.field
    rw [hrefused.refused] at hname
    cases hname

/-- Whatever vectors come for `nearBatch`, it is answered: the one column for vectors is safe. -/
theorem error_iff_firstRefused_near :
    (∃ compiled, (translate .default nearBatch).result = .ok compiled) ∧
    ∀ hasService turns a, Serves .default hasService nearBatch turns a →
      ∃ response, a.result = .ok response := by
  have hok : (translate .default nearBatch).result.isOk = true := by decide +kernel
  have hfields : (Batch.accept nearBatch).map (fun ds => ds.map Descriptor.vectorField) =
      .ok [some "v", none, none, none] := by
    decide +kernel
  cases ht : (translate .default nearBatch).result with
  | error e =>
    rw [ht] at hok
    cases hok
  | ok compiled =>
    obtain ⟨ds, hb, -, -, hsafe⟩ := error_iff_firstRefused .default nearBatch compiled ht
    rw [hb] at hfields
    have hvectors : ds.map Descriptor.vectorField = [some "v", none, none, none] :=
      Except.ok.inj hfields
    refine ⟨⟨compiled, rfl⟩, hsafe fun d hd _ _ _ name hname => ?_⟩
    have hmem : some name ∈ ds.map Descriptor.vectorField := hname ▸ List.mem_map_of_mem hd
    rw [hvectors] at hmem
    obtain rfl : name = "v" := by simpa using hmem
    decide

/-- A search with an unsafe column for vectors. -/
def refusedBatch : List Json := [
  .object [("dataField", .string "title"), ("id", .string "near"), ("table", .string "books"),
    ("value", .string "dune"), ("vectorDataField", .string "v;x")]]

/-- **A batch that can be translated and not be served**: its name of a vector column is refused
only when a vector has come. -/
theorem translated_and_refused :
    (translate .default refusedBatch).result.isOk = true ∧
    (query .default (some (constantEmbedder [.one])) emptyStore none refusedBatch).map
      (fun a => a.result) = some (.error (.compile (.invalidIdentifier "v;x"))) := by
  constructor
  · decide +kernel
  · decide +kernel

end Engine

end QueryBatch
