import QueryBatch.Proofs.Agreement

/-! # Translating value by value

The translation of an accepted batch is put together from the translations of its values, each on
its own: no value has any influence on what another is translated to, or on whether it is translated
at all. The order of a batch decides only which error is told if there are several.

* `Engine.translateAll_append`: a list of descriptors is translated part by part.
* `Engine.result_translate_singleton`, `Engine.translate_eq_mapM`: a value alone, and **a batch
  value by value**.
* `Engine.alike_of_perm`, `Engine.translate_around`, `Engine.translate_append`: batches in another
  order, without a value, and side by side.
* `Engine.Compositional`, `Engine.translate_compositional`: **translations are put together**.
-/

namespace QueryBatch

open Outcome
open Batch (StandsFor accept)

namespace Batch

variable {batch batch' : List Json} {ds ds' : List Descriptor} {j : Json} {d : Descriptor}

theorem accept_singleton (h : StandsFor j d) : accept [j] = .ok [d] :=
  accept_eq_ok_iff.mpr ⟨.cons h .nil, List.pairwise_singleton _ _⟩

theorem exists_accept_of_perm (h : accept batch = .ok ds) (hp : batch'.Perm batch) :
    ∃ ds', accept batch' = .ok ds' ∧ ds'.Perm ds := by
  obtain ⟨hall, hn⟩ := accept_eq_ok_iff.mp h
  obtain ⟨ds', hall', hperm⟩ := List.perm_comp_forall₂ hp hall
  exact ⟨ds', accept_eq_ok_iff.mpr ⟨hall', (hperm.map _).nodup_iff.mpr hn⟩, hperm⟩

theorem accept_append (h : accept batch = .ok ds) (h' : accept batch' = .ok ds')
    (hne : ∀ d ∈ ds, ∀ d' ∈ ds', d.name ≠ d'.name) :
    accept (batch ++ batch') = .ok (ds ++ ds') := by
  obtain ⟨hall, hn⟩ := accept_eq_ok_iff.mp h
  obtain ⟨hall', hn'⟩ := accept_eq_ok_iff.mp h'
  refine accept_eq_ok_iff.mpr ⟨List.rel_append hall hall', ?_⟩
  rw [List.map_append, List.nodup_append]
  refine ⟨hn, hn', fun k hk k' hk' => ?_⟩
  obtain ⟨d, hd, rfl⟩ := List.mem_map.mp hk
  obtain ⟨d', hd', rfl⟩ := List.mem_map.mp hk'
  exact hne d hd d' hd'

theorem accept_around {before after : List Json} (h : accept (before ++ j :: after) = .ok ds)
    (hj : StandsFor j d) : ∃ ds₁ ds₂, ds = ds₁ ++ d :: ds₂ ∧
      accept (before ++ after) = .ok (ds₁ ++ ds₂) := by
  obtain ⟨hall, hn⟩ := accept_eq_ok_iff.mp h
  obtain ⟨ds₁, _, rfl, hbefore, hrest⟩ := exists_append_of_forall₂ hall
  cases hrest with
  | @cons _ d' _ ds₂ hj' hafter =>
    cases hj.unique hj'
    refine ⟨ds₁, ds₂, rfl, accept_eq_ok_iff.mpr ⟨List.rel_append hbefore hafter, ?_⟩⟩
    exact hn.sublist (((List.sublist_cons_self d ds₂).append_left ds₁).map _)

end Batch

namespace Engine

variable {settings : Settings} {batch batch' : List Json} {ds ds' : List Descriptor} {j : Json}
  {d : Descriptor} {t : Keyed Compiled}

/-! ### Descriptors -/

theorem executed_append (ds ds' : List Descriptor) :
    executed (ds ++ ds') = executed ds ++ executed ds' := List.filter_append ds ds'

theorem executed_cons_of_not_isExecuted (h : d.isExecuted = false) :
    executed (d :: ds) = executed ds := List.filter_cons_of_neg (by simp [h])

theorem translateAll_append (settings : Settings) (ds ds' : List Descriptor) :
    translateAll settings (ds ++ ds') = (do
      let l ← translateAll settings ds
      let l' ← translateAll settings ds'
      pure (l ++ l')) := by
  unfold translateAll
  rw [executed_append, List.mapM_append]

theorem translateAll_of_not_isExecuted (h : d.isExecuted = false) :
    translateAll settings [d] = .ok [] := by
  rw [translateAll, executed_cons_of_not_isExecuted h]
  rfl

theorem translateAll_of_isExecuted (h : d.isExecuted = true) :
    translateAll settings [d] =
      (d.compile none settings.defaultSize false).map fun c => [c] := by
  unfold translateAll executed
  rw [List.filter_cons_of_pos h, List.filter_nil, List.mapM_cons]
  cases d.compile none settings.defaultSize false <;> rfl

theorem map_fst_of_translateAll {l : List (String × Compiled)}
    (h : translateAll settings ds = .ok l) : l.map Prod.fst = (executed ds).map Descriptor.name :=
  map_fst_of_compile h

theorem nodup_of_translateAll {l : List (String × Compiled)} (h : accept batch = .ok ds)
    (hl : translateAll settings ds = .ok l) : (l.map Prod.fst).Nodup := by
  rw [map_fst_of_translateAll hl]
  exact (Batch.nodup_names h).sublist (List.filter_sublist.map _)

/-! ### Values -/

theorem result_translate (h : accept batch = .ok ds) : (translate settings batch).result =
    ((translateAll settings ds).map Keyed.ofList).mapError .compile := by
  unfold translate
  rw [h]
  dsimp only
  cases translateAll settings ds <;> rfl

theorem translate_eq_ok_iff (h : accept batch = .ok ds) :
    (translate settings batch).result = .ok t ↔
      ∃ l, translateAll settings ds = .ok l ∧ t = Keyed.ofList l := by
  rw [result_translate h]
  cases translateAll settings ds <;> simp [Except.map, Except.mapError, eq_comm]

theorem result_translate_singleton (hj : StandsFor j d) :
    (translate settings [j]).result = (translateAll settings [d]).mapError .compile := by
  rw [result_translate (Batch.accept_singleton hj)]
  cases hd : d.isExecuted with
  | false =>
    rw [translateAll_of_not_isExecuted hd]
    rfl
  | true =>
    rw [translateAll_of_isExecuted hd]
    cases d.compile none settings.defaultSize false <;> rfl

theorem mapM_translate_singleton (settings : Settings) (h : List.Forall₂ StandsFor batch ds) :
    (batch.mapM fun j => (translate settings [j]).result).map List.flatten =
      (translateAll settings ds).mapError .compile := by
  induction h with
  | nil => rfl
  | @cons j d batch ds hj _ ih =>
    have happend := translateAll_append settings [d] ds
    rw [List.singleton_append] at happend
    rw [happend, List.mapM_cons, result_translate_singleton hj]
    cases translateAll settings [d] with
    | error e => rfl
    | ok l =>
      generalize batch.mapM (fun j => (translate settings [j]).result) = values at ih ⊢
      generalize translateAll settings ds = descriptors at ih ⊢
      cases values <;> cases descriptors <;> cases ih <;> rfl

/-- **A batch is translated value by value.** -/
theorem translate_eq_mapM (h : accept batch = .ok ds) : (translate settings batch).result =
    (batch.mapM fun j => (translate settings [j]).result).map
      fun ts => Keyed.ofList ts.flatten := by
  have hall := mapM_translate_singleton settings (Batch.accept_eq_ok_iff.mp h).1
  rw [result_translate h]
  generalize batch.mapM (fun j => (translate settings [j]).result) = values at hall ⊢
  generalize translateAll settings ds = descriptors at hall ⊢
  cases values <;> cases descriptors <;> cases hall <;> rfl

theorem translate_eq_error_iff {e : EngineError} (h : accept batch = .ok ds) :
    (translate settings batch).result = .error e ↔ ∃ before j after,
      batch = before ++ j :: after ∧
      (∀ j' ∈ before, ∃ t, (translate settings [j']).result = .ok t) ∧
      (translate settings [j]).result = .error e := by
  rw [translate_eq_mapM h, map_eq_error, mapM_eq_error_iff]

/-- **An error of a value** that is not translated alone. -/
def IsErrorOfValue (settings : Settings) (batch : List Json) (e : EngineError) : Prop :=
  ∃ j ∈ batch, (translate settings [j]).result = .error e

theorem isErrorOfValue_of_translate {e : EngineError} (h : accept batch = .ok ds)
    (he : (translate settings batch).result = .error e) : IsErrorOfValue settings batch e := by
  obtain ⟨before, j, after, rfl, -, hj⟩ := (translate_eq_error_iff h).mp he
  exact ⟨j, List.mem_append_right _ List.mem_cons_self, hj⟩

theorem alike_of_perm (h : accept batch = .ok ds) (hp : batch'.Perm batch) :
    Alike (fun e e' => IsErrorOfValue settings batch e ∧ IsErrorOfValue settings batch e') Eq
      (translate settings batch').result (translate settings batch).result := by
  obtain ⟨ds', h', hds⟩ := Batch.exists_accept_of_perm h hp
  have herror' : ∀ e, (translate settings batch').result = .error e →
      IsErrorOfValue settings batch e := by
    intro e he
    obtain ⟨j, hj, hje⟩ := isErrorOfValue_of_translate h' he
    exact ⟨j, hp.mem_iff.mp hj, hje⟩
  have herror := fun e (he : (translate settings batch).result = .error e) =>
    isErrorOfValue_of_translate h he
  have hnodup := fun l (hl : translateAll settings ds' = .ok l) => nodup_of_translateAll h' hl
  have hall : Alike AnyErrors List.Perm (translateAll settings ds') (translateAll settings ds) :=
    Alike.mapM_of_perm _ (hds.filter _)
  -- either both fail, or both give the same entries, which are then put in one order
  rw [result_translate h'] at herror' ⊢
  rw [result_translate h] at herror ⊢
  generalize translateAll settings ds' = x at hall hnodup herror' ⊢
  generalize translateAll settings ds = y at hall herror ⊢
  cases hall with
  | failed => exact .failed ⟨herror' _ rfl, herror _ rfl⟩
  | done hperm => exact .done (Keyed.ofList_eq_of_perm hperm (hnodup _ rfl))

/-- A value that does not take part makes no difference. -/
theorem translate_around {before after : List Json}
    (h : accept (before ++ j :: after) = .ok ds) (hj : StandsFor j d) (hd : d.isExecuted = false) :
    (translate settings (before ++ j :: after)).result =
      (translate settings (before ++ after)).result := by
  obtain ⟨ds₁, ds₂, rfl, h'⟩ := Batch.accept_around h hj
  rw [result_translate h, result_translate h', translateAll, translateAll, executed_append,
    executed_append, executed_cons_of_not_isExecuted hd]

theorem translate_append (h : accept batch = .ok ds) (h' : accept batch' = .ok ds')
    (hne : ∀ d ∈ ds, ∀ d' ∈ ds', d.name ≠ d'.name) :
    (translate settings (batch ++ batch')).result = (do
      let t ← (translate settings batch).result
      let t' ← (translate settings batch').result
      pure (Keyed.ofList (t ++ t'))) := by
  have hboth := Batch.accept_append h h' hne
  rw [result_translate h, result_translate h', result_translate hboth, translateAll_append]
  cases hl : translateAll settings ds with
  | error e => rfl
  | ok l =>
    cases hl' : translateAll settings ds' with
    | error e => rfl
    | ok l' =>
      have hll' : translateAll settings (ds ++ ds') = .ok (l ++ l') := by
        rw [translateAll_append, hl, hl']
        rfl
      have hperm := (Keyed.perm_ofList (nodup_of_translateAll h hl)).append
        (Keyed.perm_ofList (nodup_of_translateAll h' hl'))
      exact congrArg Except.ok
        (Keyed.ofList_eq_of_perm hperm.symm (nodup_of_translateAll hboth hll'))

/-- **Translations are put together** from those of the values of a batch that is accepted with
these descriptors. -/
structure Compositional (settings : Settings) (batch : List Json) (ds : List Descriptor) :
    Prop where
  /-- All is translated if each value alone is. -/
  succeeds : (∃ t, (translate settings batch).result = .ok t) ↔
    ∀ j ∈ batch, ∃ t, (translate settings [j]).result = .ok t
  /-- The error is that of the first value that is not translated alone. -/
  fails : ∀ e, (translate settings batch).result = .error e ↔ ∃ before j after,
    batch = before ++ j :: after ∧
    (∀ j' ∈ before, ∃ t, (translate settings [j']).result = .ok t) ∧
    (translate settings [j]).result = .error e
  /-- The keys are the names of the descriptors that take part. -/
  keys : ∀ t, (translate settings batch).result = .ok t → t.IsSorted ∧
    ∀ k, k ∈ t.keys ↔ ∃ d ∈ ds, d.isExecuted = true ∧ d.name = k
  /-- The entry of a descriptor is the one that it has alone. -/
  entries : ∀ t, (translate settings batch).result = .ok t →
    ∀ j ∈ batch, ∀ d, StandsFor j d → d.isExecuted = true → ∃ c,
      t.get? d.name = some c ∧ (translate settings [j]).result = .ok [(d.name, c)]
  /-- The order makes no difference, but to which error of a value is told if there are several. -/
  permuted : ∀ batch', batch'.Perm batch →
    Alike (fun e e' => IsErrorOfValue settings batch e ∧ IsErrorOfValue settings batch e') Eq
      (translate settings batch').result (translate settings batch).result
  /-- A value that does not take part makes no difference at all. -/
  unexecuted : ∀ before j after d, batch = before ++ j :: after → StandsFor j d →
    d.isExecuted = false →
    (translate settings batch).result = (translate settings (before ++ after)).result
  /-- With another batch that shares no name the values of both are there. -/
  union : ∀ batch' ds', accept batch' = .ok ds' → (∀ d ∈ ds, ∀ d' ∈ ds', d.name ≠ d'.name) →
    (translate settings (batch ++ batch')).result = (do
      let t ← (translate settings batch).result
      let t' ← (translate settings batch').result
      pure (Keyed.ofList (t ++ t'))) ∧
    ∀ t t', (translate settings batch).result = .ok t →
      (translate settings batch').result = .ok t' →
      ∀ k, (Keyed.ofList (t ++ t')).get? k = (t.get? k).or (t'.get? k)

theorem isSorted_of_translate (h : accept batch = .ok ds)
    (ht : (translate settings batch).result = .ok t) : t.IsSorted := by
  obtain ⟨l, -, rfl⟩ := (translate_eq_ok_iff h).mp ht
  exact Keyed.isSorted_ofList l

theorem mem_keys_iff (h : accept batch = .ok ds) (ht : (translate settings batch).result = .ok t)
    {k : String} : k ∈ t.keys ↔ ∃ d ∈ ds, d.isExecuted = true ∧ d.name = k := by
  obtain ⟨l, hl, rfl⟩ := (translate_eq_ok_iff h).mp ht
  have hperm := (Keyed.perm_ofList (nodup_of_translateAll h hl)).map Prod.fst
  rw [Keyed.keys, hperm.mem_iff, map_fst_of_translateAll hl, List.mem_map]
  simp only [executed, List.mem_filter, and_assoc]

theorem exists_entry (h : accept batch = .ok ds) (ht : (translate settings batch).result = .ok t)
    (hj : j ∈ batch) (hstands : StandsFor j d) (hd : d.isExecuted = true) : ∃ c,
      t.get? d.name = some c ∧ (translate settings [j]).result = .ok [(d.name, c)] := by
  obtain ⟨l, hl, rfl⟩ := (translate_eq_ok_iff h).mp ht
  obtain ⟨d', hd', hstands'⟩ := exists_of_forall₂_left (Batch.accept_eq_ok_iff.mp h).1 hj
  cases hstands.unique hstands'
  have hmem : d ∈ executed ds := List.mem_filter.mpr ⟨hd', hd⟩
  obtain ⟨⟨name, c⟩, hc, hcompile⟩ := exists_of_forall₂_left (mapM_eq_ok.mp hl) hmem
  obtain rfl : name = d.name := (Descriptor.compile_eq_ok hcompile).1
  have hnodup := nodup_of_translateAll h hl
  refine ⟨c, ?_, ?_⟩
  · rw [Keyed.get?_ofList _ hnodup]
    exact Keyed.get?_of_mem hnodup hc
  · rw [result_translate_singleton hstands, translateAll_of_isExecuted hd, hcompile]
    rfl

theorem get?_ofList_append {t' : Keyed Compiled} (h : accept batch = .ok ds)
    (h' : accept batch' = .ok ds') (hne : ∀ d ∈ ds, ∀ d' ∈ ds', d.name ≠ d'.name)
    (ht : (translate settings batch).result = .ok t)
    (ht' : (translate settings batch').result = .ok t') (k : String) :
    (Keyed.ofList (t ++ t')).get? k = (t.get? k).or (t'.get? k) := by
  have hnodup : ((t ++ t').map Prod.fst).Nodup := by
    rw [List.map_append, List.nodup_append]
    refine ⟨(isSorted_of_translate h ht).nodup, (isSorted_of_translate h' ht').nodup, ?_⟩
    rintro k hk _ hk' rfl
    obtain ⟨d, hd, -, hname⟩ := (mem_keys_iff h ht).mp hk
    obtain ⟨d', hd', -, hname'⟩ := (mem_keys_iff h' ht').mp hk'
    exact hne d hd d' hd' (hname.trans hname'.symm)
  rw [Keyed.get?_ofList k hnodup, Keyed.get?_append]

/-- **Translations are put together.** A batch that is accepted is translated if and only if each of
its values alone is, and then to what these are translated to, in any order, with or without the
values that do not take part, and side by side with another batch. -/
theorem translate_compositional (settings : Settings) {batch : List Json} {ds : List Descriptor}
    (h : accept batch = .ok ds) : Compositional settings batch ds where
  succeeds := by
    rw [translate_eq_mapM h, ← exists_mapM_eq_ok_iff]
    simp only [map_eq_ok]
    exact ⟨fun ⟨_, ts, hts, _⟩ => ⟨ts, hts⟩, fun ⟨ts, hts⟩ => ⟨_, ts, hts, rfl⟩⟩
  fails e := translate_eq_error_iff h
  keys t ht := ⟨isSorted_of_translate h ht, fun k => mem_keys_iff h ht⟩
  entries t ht j hj d hstands hd := exists_entry h ht hj hstands hd
  permuted batch' hp := alike_of_perm h hp
  unexecuted before j after d hbatch hj hd := by
    subst hbatch
    exact translate_around h hj hd
  union batch' ds' h' hne :=
    ⟨translate_append h h' hne, fun t t' ht ht' => get?_ofList_append h h' hne ht ht'⟩

/-- A search, a query without a table that does not take part, and a range query. -/
def partialBatch : List Json := [
  .object [("dataField", .string "title"), ("id", .string "titles"), ("table", .string "books"),
    ("value", .string "dune")],
  .object [("execute", .bool false), ("id", .string "drafts")],
  .object [("aggregations", .ofStrings ["max"]), ("dataField", .string "year"),
    ("id", .string "years"), ("table", .string "books"), ("type", .string "range")]]

/-- The two queries that take part are translated, the other way round as well. -/
theorem translate_compositional_partial : ∃ ds, Batch.accept partialBatch = .ok ds ∧
    Compositional .default partialBatch ds ∧
    ((translate .default partialBatch).result.toOption.map Keyed.keys) =
      some ["titles", "years"] ∧
    (translate .default partialBatch.reverse).result =
      (translate .default partialBatch).result := by
  have hkeys : ((translate .default partialBatch).result.toOption.map Keyed.keys) =
      some ["titles", "years"] := by
    decide +kernel
  obtain ⟨ds, h⟩ := exists_eq_ok_of_isOk (x := Batch.accept partialBatch) (by decide +kernel)
  have hall := translate_compositional .default h
  have halike := hall.permuted _ partialBatch.reverse_perm
  refine ⟨ds, h, hall, hkeys, ?_⟩
  generalize (translate .default partialBatch.reverse).result = x at halike ⊢
  generalize (translate .default partialBatch).result = y at hkeys halike ⊢
  cases halike with
  | failed => cases hkeys
  | done heq => rw [heq]

/-- A query without a table, and one that is ordered by what is no column. -/
def faultyPair : List Json := [
  .object [("id", .string "drafts")],
  .object [("id", .string "years"), ("sortField", .string "a;b"), ("table", .string "books")]]

/-- Of two errors the first one is told. -/
theorem translate_reverse_faultyPair : (∃ ds, Batch.accept faultyPair = .ok ds) ∧
    faultyPair.reverse.Perm faultyPair ∧
    (translate .default faultyPair).result = .error (.compile (.missingField "table")) ∧
    (translate .default faultyPair.reverse).result =
      .error (.compile (.invalidIdentifier "a;b")) ∧
    (translate .default faultyPair.reverse).result ≠ (translate .default faultyPair).result := by
  have hfirst : (translate .default faultyPair).result =
      .error (.compile (.missingField "table")) := by
    decide +kernel
  have hsecond : (translate .default faultyPair.reverse).result =
      .error (.compile (.invalidIdentifier "a;b")) := by
    decide +kernel
  refine ⟨exists_eq_ok_of_isOk (by decide +kernel), faultyPair.reverse_perm, hfirst, hsecond, ?_⟩
  rw [hfirst, hsecond]
  decide

end Engine

end QueryBatch
