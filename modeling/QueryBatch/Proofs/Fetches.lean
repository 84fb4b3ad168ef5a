import QueryBatch.Proofs.Serving

/-! # The fetch for a descriptor

The names of an accepted batch are distinct, so the fetches of a batch are found by name: a
descriptor has failed if its own fetch has, and the vector that it is compiled with is its own.

* `EmbeddingStage.result?`: the result of the fetch with a name.
* `EmbeddingStage.hasFailed_iff`, `EmbeddingStage.vector?_eq`: **what it says of a descriptor**.
* `EmbeddingStage.IsFor.perm_failures`: the failures are those of the descriptors that failed.
-/

namespace QueryBatch

namespace EmbeddingStage

theorem filterMap_sublist {α β : Type} {f : α → Option β} {g : α → β} {l : List α}
    (h : ∀ a ∈ l, ∀ b, f a = some b → b = g a) : (l.filterMap f).Sublist (l.map g) := by
  induction l with
  | nil => exact .slnil
  | cons a r ih =>
    have hr := ih fun b hb => h b (List.mem_cons_of_mem a hb)
    rw [List.filterMap_cons, List.map_cons]
    split
    · exact hr.cons _
    · next b hb =>
      rw [h a List.mem_cons_self b hb]
      exact hr.cons_cons _

/-- The results under the names of their fetches. -/
def results (s : EmbeddingStage) : Keyed (Except EmbeddingError (List Binary64)) :=
  s.fetches.map fun f => (f.name, f.result)

/-- **The result of the fetch with a name.** -/
def result? (k : String) (s : EmbeddingStage) : Option (Except EmbeddingError (List Binary64)) :=
  Keyed.get? k s.results

variable {s : EmbeddingStage} {hasService : Bool} {ds : List Descriptor} {k : String}

/-! ### Failures and vectors -/

theorem mem_failures {e : EmbeddingError} : (k, e) ∈ s.failures ↔ (k, .error e) ∈ s.results := by
  simp only [failures, results, List.mem_filterMap, List.mem_map]
  refine exists_congr fun f => and_congr_right fun _ => ?_
  unfold failureOf
  cases f.result <;> simp

theorem hasFailed_iff_mem : s.hasFailed k = true ↔ k ∈ s.failures.map Prod.fst := by
  simp [hasFailed]

theorem hasFailed_iff (hn : (s.results.map Prod.fst).Nodup) :
    s.hasFailed k = true ↔ ∃ e, s.result? k = some (.error e) := by
  simp only [hasFailed_iff_mem, List.mem_map, Prod.exists, exists_and_right, exists_eq_right,
    mem_failures, result?, Keyed.get?_eq_some_iff hn]

theorem vectorOf_eq_some {f : Fetch} {v : List Binary64} :
    vectorOf k f = some v ↔ (f.name, f.result) = (k, .ok v) := by
  unfold vectorOf
  cases f.result with
  | error e => simp
  | ok w =>
    by_cases h : f.name = k
    · simp [h]
    · simp [h]

/-- A fetch has given a vector if the last one with its name has; there is only one. -/
theorem vector?_eq_some_iff (hn : (s.results.map Prod.fst).Nodup) {v : List Binary64} :
    s.vector? k = some v ↔ s.result? k = some (.ok v) := by
  have hown : ∀ w, s.vector? k = some w → s.result? k = some (.ok w) := by
    intro w hw
    obtain ⟨f, hf, hfw⟩ := List.exists_of_findSome?_eq_some hw
    rw [result?, Keyed.get?_eq_some_iff hn, ← vectorOf_eq_some.mp hfw]
    exact List.mem_map_of_mem (List.mem_reverse.mp hf)
  refine ⟨hown v, fun hv => ?_⟩
  have hsome : (s.vector? k).isSome = true := by
    obtain ⟨f, hf, hfv⟩ := List.mem_map.mp (Keyed.mem_of_get?_eq_some hv)
    rw [vector?, List.findSome?_isSome_iff]
    exact ⟨f, List.mem_reverse.mpr hf, by rw [vectorOf_eq_some.mpr hfv]; rfl⟩
  obtain ⟨w, hw⟩ := Option.isSome_iff_exists.mp hsome
  cases hv.symm.trans (hown w hw)
  exact hw

theorem vector?_eq (hn : (s.results.map Prod.fst).Nodup) :
    s.vector? k = (s.result? k).bind Except.toOption := by
  refine Option.ext fun v => ?_
  rw [vector?_eq_some_iff hn]
  cases s.result? k with
  | none => simp
  | some r => cases r <;> simp [Except.toOption]

theorem hasFailed_eq_false_of_isSome (hn : (s.results.map Prod.fst).Nodup)
    (h : (s.vector? k).isSome = true) : s.hasFailed k = false := by
  rw [vector?_eq hn] at h
  rw [← Bool.not_eq_true, hasFailed_iff hn]
  rintro ⟨e, he⟩
  rw [he] at h
  cases h

/-! ### Names -/

theorem failures_sublist : (s.failures.map Prod.fst).Sublist (s.results.map Prod.fst) := by
  rw [failures, results, List.map_map, List.map_filterMap]
  refine filterMap_sublist fun f _ k hk => ?_
  obtain ⟨p, hp, rfl⟩ := Option.map_eq_some_iff.mp hk
  unfold failureOf at hp
  split at hp
  · cases hp
  · cases hp
    rfl

theorem wanted_sublist : ((wanted ds).map Prod.fst).Sublist (ds.map Descriptor.name) := by
  rw [wanted, List.map_filterMap]
  refine filterMap_sublist fun d _ k hk => ?_
  rw [Option.map_map] at hk
  obtain ⟨text, -, rfl⟩ := Option.map_eq_some_iff.mp hk
  rfl

namespace IsFor

theorem map_fst_results (h : s.IsFor hasService ds) :
    s.results.map Prod.fst = (wanted ds).map Prod.fst := by
  rw [← h.texts, results, List.map_map, List.map_map]
  rfl

theorem nodup_results (h : s.IsFor hasService ds) (hn : (ds.map Descriptor.name).Nodup) :
    (s.results.map Prod.fst).Nodup := by
  rw [h.map_fst_results]
  exact hn.sublist wanted_sublist

theorem exists_of_result? (h : s.IsFor hasService ds) {r : Except EmbeddingError (List Binary64)}
    (hr : s.result? k = some r) : ∃ d ∈ ds, d.name = k ∧ d.wantsEmbedding = true := by
  have hk : k ∈ (wanted ds).map Prod.fst := by
    rw [← h.map_fst_results]
    exact List.mem_map_of_mem (Keyed.mem_of_get?_eq_some hr)
  obtain ⟨w, hw, rfl⟩ := List.mem_map.mp hk
  obtain ⟨d, hd, hdw⟩ := List.mem_filterMap.mp hw
  obtain ⟨text, htext, rfl⟩ := Option.map_eq_some_iff.mp hdw
  refine ⟨d, hd, rfl, ?_⟩
  unfold Descriptor.textToEmbed? at htext
  split at htext
  · next hwants => exact (Bool.and_eq_true_iff.mp hwants).2
  · cases htext

theorem exists_fetch {d : Descriptor} (h : s.IsFor hasService ds) (hd : d ∈ ds)
    (hx : d.isExecuted = true) (hw : d.wantsEmbedding = true) :
    ∃ f ∈ s.fetches, f.name = d.name := by
  have htext : d.valueText?.isSome = true := (Bool.and_eq_true_iff.mp hw).2
  obtain ⟨text, htext⟩ := Option.isSome_iff_exists.mp htext
  have hwanted : (d.name, text) ∈ wanted ds := by
    refine List.mem_filterMap.mpr ⟨d, hd, ?_⟩
    rw [Descriptor.textToEmbed?, hx, hw, htext]
    rfl
  rw [← h.texts] at hwanted
  obtain ⟨f, hf, hname⟩ := List.mem_map.mp hwanted
  exact ⟨f, hf, (Prod.mk.inj hname).1⟩

/-- **The failures are those of the descriptors that failed.** -/
theorem perm_failures (h : s.IsFor hasService ds) (hn : (ds.map Descriptor.name).Nodup) :
    (s.failures.map Prod.fst).Perm
      ((ds.filter fun d => s.hasFailed d.name).map Descriptor.name) := by
  have hnodup := (h.nodup_results hn).sublist failures_sublist
  refine (List.perm_ext_iff_of_nodup hnodup (hn.sublist (List.filter_sublist.map _))).mpr
    fun k => ⟨fun hk => ?_, fun hk => ?_⟩
  · have hnames : k ∈ ds.map Descriptor.name := by
      have hresults := failures_sublist.subset hk
      rw [h.map_fst_results] at hresults
      exact wanted_sublist.subset hresults
    obtain ⟨d, hd, rfl⟩ := List.mem_map.mp hnames
    exact List.mem_map_of_mem (List.mem_filter.mpr ⟨hd, hasFailed_iff_mem.mpr hk⟩)
  · obtain ⟨d, hd, rfl⟩ := List.mem_map.mp hk
    exact hasFailed_iff_mem.mp (List.mem_filter.mp hd).2

end IsFor

end EmbeddingStage

/-- A service that gives the same vector for every text. -/
def constantEmbedder (vector : List Binary64) : Embedder := fun _ => ⟨some 0, .ok vector⟩

end QueryBatch
