import QueryBatch.Proofs.FetchRuns
import QueryBatch.Proofs.Fetches

/-! # A vector or a failure

A descriptor that takes part and wants a vector comes to a vector or to a failure, and to only one
of the two; no other descriptor comes to either. This decides which descriptors are compiled. It
holds however the turns of the fetches are mixed and whatever ends them, since each fetch has an
ending of its own.

* `EmbeddingStage.wanting`: the descriptors that take part and want a vector.
* `EmbeddingStage.Partitions`: **a vector or a failure** for each of them, and failures in order.
* `EmbeddingStage.Gives`: what the fetches give for a name.
* `Fetching.Settles`: each fetch has asked once and has its own ending.
* `Fetching.settles_of_nodup`: **so it is for any batch with distinct names**.
-/

namespace QueryBatch

open Outcome

namespace EmbeddingStage

/-- **The descriptors for which vectors are wanted.** -/
def wanting (ds : List Descriptor) : List Descriptor :=
  ds.filter fun d => d.isExecuted && d.wantsEmbedding

/-- **A vector or a failure**: no name has both, those that have one are the names of the
descriptors for which vectors are wanted, and the failures are in the order of the descriptors. -/
structure Partitions (s : EmbeddingStage) (ds : List Descriptor) : Prop where
  disjoint : ∀ k, (s.vector? k).isSome = true → s.hasFailed k = false
  covers : ∀ k, (s.vector? k).isSome = true ∨ s.hasFailed k = true ↔
    ∃ d ∈ ds, d.isExecuted = true ∧ d.wantsEmbedding = true ∧ d.name = k
  order : s.failures.map Prod.fst =
    ((wanting ds).filter fun d => s.hasFailed d.name).map Descriptor.name

/-- **What the fetches give for a name**: a vector, or an error as its failure. -/
def Gives (s : EmbeddingStage) (k : String) : Except EmbeddingError (List Binary64) → Prop
  | .ok vector => s.vector? k = some vector ∧ s.hasFailed k = false
  | .error e => s.vector? k = none ∧ (k, e) ∈ s.failures

variable {s : EmbeddingStage} {hasService : Bool} {ds : List Descriptor} {k : String}

theorem exists_valueText_of_mem_wanting {d : Descriptor} (h : d ∈ wanting ds) :
    ∃ text, d.valueText? = some text := by
  have hwants := (Bool.and_eq_true_iff.mp (List.mem_filter.mp h).2).2
  exact Option.isSome_iff_exists.mp (Bool.and_eq_true_iff.mp hwants).2

theorem wanted_eq_map (ds : List Descriptor) :
    wanted ds = (wanting ds).map fun d => (d.name, d.valueText?.getD "") := by
  induction ds with
  | nil => rfl
  | cons d r ih =>
    cases hw : d.isExecuted && d.wantsEmbedding with
    | false =>
      have htext : d.textToEmbed? = none := by simp [Descriptor.textToEmbed?, hw]
      have hrest : wanting (d :: r) = wanting r := List.filter_cons_of_neg (by simp [hw])
      rw [wanted, List.filterMap_cons, htext, hrest]
      exact ih
    | true =>
      have hrest : wanting (d :: r) = d :: wanting r := List.filter_cons_of_pos hw
      obtain ⟨text, htext⟩ := exists_valueText_of_mem_wanting (hrest ▸ List.mem_cons_self)
      have hembed : d.textToEmbed? = some text := by simp [Descriptor.textToEmbed?, hw, htext]
      rw [wanted, List.filterMap_cons, hembed, hrest, List.map_cons, htext]
      exact congrArg _ ih

theorem map_fst_wanted (ds : List Descriptor) :
    (wanted ds).map Prod.fst = (wanting ds).map Descriptor.name := by
  rw [wanted_eq_map, List.map_map]
  rfl

theorem isSome_or_hasFailed_iff (hn : (s.results.map Prod.fst).Nodup) :
    (s.vector? k).isSome = true ∨ s.hasFailed k = true ↔ k ∈ s.results.map Prod.fst := by
  have hmem : k ∈ s.results.map Prod.fst ↔ s.result? k ≠ none := by
    rw [result?, ne_eq, Keyed.get?_eq_none_iff, not_not]
  rw [hmem, hasFailed_iff hn, vector?_eq hn]
  rcases s.result? k with _ | (e | v) <;> simp [Except.toOption]

theorem map_fst_failures (hn : (s.results.map Prod.fst).Nodup) :
    s.failures.map Prod.fst = (s.results.map Prod.fst).filter s.hasFailed := by
  have hown : ∀ f ∈ s.fetches, s.hasFailed f.name = (failureOf f).isSome := by
    intro f hf
    have hresult : s.result? f.name = some f.result :=
      Keyed.get?_of_mem hn (List.mem_map_of_mem hf)
    rw [Bool.eq_iff_iff, hasFailed_iff hn, hresult]
    unfold failureOf
    cases f.result <;> simp
  have hall : ∀ l : List Fetch, (∀ f ∈ l, s.hasFailed f.name = (failureOf f).isSome) →
      (l.filterMap failureOf).map Prod.fst = (l.map Fetch.name).filter s.hasFailed := by
    intro l hl
    induction l with
    | nil => rfl
    | cons f r ih =>
      have hf := hl f List.mem_cons_self
      rw [List.filterMap_cons, List.map_cons, List.filter_cons, hf,
        ← ih fun f hf => hl f (List.mem_cons_of_mem _ hf)]
      unfold failureOf
      cases f.result <;> rfl
  have hnames : s.results.map Prod.fst = s.fetches.map Fetch.name := by
    rw [results, List.map_map]
    rfl
  rw [hnames]
  exact hall s.fetches hown

/-- **The fetches that may come for some descriptors with distinct names** give each that wants one
a vector or a failure. -/
theorem IsFor.partitions (h : s.IsFor hasService ds) (hn : (ds.map Descriptor.name).Nodup) :
    s.Partitions ds := by
  have hnodup := h.nodup_results hn
  have hnames : s.results.map Prod.fst = (wanting ds).map Descriptor.name := by
    rw [h.map_fst_results, map_fst_wanted]
  refine ⟨fun k => hasFailed_eq_false_of_isSome hnodup, fun k => ?_, ?_⟩
  · rw [isSome_or_hasFailed_iff hnodup, hnames]
    simp only [wanting, List.mem_map, List.mem_filter, Bool.and_eq_true, and_assoc]
  · rw [map_fst_failures hnodup, hnames, List.filter_map]
    rfl

theorem gives_result (hn : (s.results.map Prod.fst).Nodup) {f : Fetch} (hf : f ∈ s.fetches) :
    s.Gives f.name f.result := by
  have hresult : s.result? f.name = some f.result :=
    Keyed.get?_of_mem hn (List.mem_map_of_mem hf)
  cases hr : f.result with
  | error e =>
    rw [hr] at hresult
    refine ⟨?_, mem_failures.mpr (Keyed.mem_of_get?_eq_some hresult)⟩
    rw [vector?_eq hn, hresult]
    rfl
  | ok v =>
    rw [hr] at hresult
    have hv := (vector?_eq_some_iff hn).mpr hresult
    exact ⟨hv, hasFailed_eq_false_of_isSome hn (by rw [hv]; rfl)⟩

end EmbeddingStage

open EmbeddingStage

/-! ### Each fetch for itself -/

/-- **What the fetches of a batch settle**, in some turns: each descriptor that wants a vector has
asked once, for its own text, and has come to what has ended its own fetch; and nothing else was
asked. -/
structure Fetching.Settles (timeout : Option Nat) (env : FetchEnvironment) (ds : List Descriptor)
    (turns : List FetchTurn) (stage : EmbeddingStage) : Prop where
  partitions : stage.Partitions ds
  own : ∀ (place : Nat) d, (wanting ds)[place]? = some d →
    ∃ text ending, d.valueText? = some text ∧
      Fetching.OwnEnding timeout env place text turns ending ∧
      stage.Gives d.name (ending.result timeout)
  noOther : ∀ place, (wanting ds).length ≤ place → Fetching.asked place turns = []

namespace Fetching

variable {timeout : Option Nat} {env : FetchEnvironment} {ds : List Descriptor}
  {turns : List FetchTurn} {s : Fetching}

/-- **A run in which all fetches have ended** has settled them. -/
theorem Run.exists_settles (h : Run timeout env (ofWanted (wanted ds)) turns s) (ho : s.IsOver)
    (hn : (ds.map Descriptor.name).Nodup) :
    ∃ stage, s.stage? = some stage ∧ Settles timeout env ds turns stage := by
  obtain ⟨stage, hstage, hasked, htexts, heach⟩ := h.exists_stage ho
  have hfor : stage.IsFor true ds := ⟨htexts, hasked, nofun⟩
  have hlength : (wanted ds).length = (wanting ds).length := by
    rw [wanted_eq_map, List.length_map]
  refine ⟨stage, hstage, hfor.partitions hn, fun place d hd => ?_, fun place hp =>
    h.asked_eq_nil_of_length_le (hlength ▸ hp)⟩
  obtain ⟨text, htext⟩ := exists_valueText_of_mem_wanting (List.mem_of_getElem? hd)
  have hwanted : (wanted ds)[place]? = some (d.name, text) := by
    rw [wanted_eq_map, List.getElem?_map, hd, Option.map_some, htext]
    rfl
  rw [← htexts, List.getElem?_map] at hwanted
  obtain ⟨f, hf, hfd⟩ := Option.map_eq_some_iff.mp hwanted
  obtain ⟨hname, rfl⟩ := Prod.mk.inj hfd
  obtain ⟨ending, hown, hresult⟩ := heach place f hf
  refine ⟨f.text, ending, htext, hown, ?_⟩
  rw [← hresult, ← hname]
  exact gives_result (hfor.nodup_results hn) (List.mem_of_getElem? hf)

end Fetching

/-! ### The fetches of a service -/

theorem Fetch.exists_offers_of_settle {embedder : Embedder} {timeout cancelAt : Option Nat}
    {name text : String} {f : Fetch} (h : settle embedder timeout cancelAt name text = some f)
    (place : Nat) :
    ∃ ending, (FetchEnvironment.ofEmbedder embedder cancelAt).Offers timeout place text ending ∧
      f.result = ending.result timeout := by
  obtain ⟨⟨took, result⟩, hrace, rfl⟩ := Option.map_eq_some_iff.mp h
  have hmem := Race.first_eq_some hrace
  simp only [List.mem_cons, Prod.mk.injEq, List.not_mem_nil, or_false] at hmem
  rcases hmem with ⟨hdelay, rfl⟩ | ⟨htimeout, rfl⟩ | ⟨hcancel, rfl⟩
  · exact ⟨.answered (embedder text).result, ⟨by rw [← hdelay]; rfl, rfl⟩, rfl⟩
  · exact ⟨.expired, by rw [FetchEnvironment.Offers, ← htimeout]; rfl, rfl⟩
  · exact ⟨.cancelled, by rw [FetchEnvironment.Offers, FetchEnvironment.ofEmbedder, ← hcancel]; rfl,
      rfl⟩

theorem Fetch.isSome_settle_iff {embedder : Embedder} {timeout cancelAt : Option Nat}
    {name text : String} : (settle embedder timeout cancelAt name text).isSome = true ↔
      (embedder text).delay.isSome = true ∨ timeout.isSome = true ∨ cancelAt.isSome = true := by
  rw [settle, Option.isSome_map]
  constructor
  · intro h
    obtain ⟨⟨took, result⟩, hrace⟩ := Option.isSome_iff_exists.mp h
    have hmem := Race.first_eq_some hrace
    simp only [List.mem_cons, Prod.mk.injEq, List.not_mem_nil, or_false] at hmem
    rcases hmem with ⟨hdelay, -⟩ | ⟨htimeout, -⟩ | ⟨hcancel, -⟩
    · exact .inl (by rw [← hdelay]; rfl)
    · exact .inr (.inl (by rw [← htimeout]; rfl))
    · exact .inr (.inr (by rw [← hcancel]; rfl))
  · intro h
    obtain ⟨took, result, hrace⟩ := Race.exists_first_eq_some (l := [
      ((embedder text).delay, (embedder text).result),
      (timeout, .error (.timeout (.ofMillis (timeout.getD 0)))),
      (cancelAt, .error .cancelled)]) (by simpa using h)
    rw [hrace]
    rfl

namespace EmbeddingStage

variable {embedder : Embedder} {timeout cancelAt : Option Nat} {ds : List Descriptor}

theorem isSome_run_iff : (run (some embedder) timeout cancelAt ds).isSome = true ↔
    ∀ w ∈ wanted ds, (embedder w.2).delay.isSome = true ∨ timeout.isSome = true ∨
      cancelAt.isSome = true := by
  have hrun : (run (some embedder) timeout cancelAt ds).isSome = true ↔
      ∃ fetches, (wanted ds).mapM (fun w => Fetch.settle embedder timeout cancelAt w.1 w.2) =
        some fetches := by
    rw [run, Option.isSome_iff_exists]
    constructor
    · rintro ⟨stage, h⟩
      obtain ⟨fetches, hfetches, -⟩ := Option.bind_eq_some_iff.mp h
      exact ⟨fetches, hfetches⟩
    · rintro ⟨fetches, h⟩
      exact ⟨_, Option.bind_eq_some_iff.mpr ⟨fetches, h, rfl⟩⟩
  rw [hrun]
  constructor
  · rintro ⟨fetches, h⟩ w hw
    obtain ⟨f, -, hf⟩ := exists_of_forall₂_left (mapM_eq_some.mp h) hw
    exact Fetch.isSome_settle_iff.mp (by rw [hf]; rfl)
  · intro h
    obtain ⟨fetches, hfetches⟩ := exists_forall₂ fun w hw =>
      Option.isSome_iff_exists.mp (Fetch.isSome_settle_iff.mpr (h w hw))
    exact ⟨fetches, mapM_eq_some.mpr hfetches⟩

/-- **The fetches of a service** are some that a run comes to. -/
theorem exists_run_of_run {stage : EmbeddingStage}
    (h : run (some embedder) timeout cancelAt ds = some stage) :
    ∃ turns s, Fetching.Run timeout (.ofEmbedder embedder cancelAt)
      (.ofWanted (wanted ds)) turns s ∧ s.IsOver ∧ s.stage? = some stage := by
  have htexts := (isFor_of_run h).texts
  obtain ⟨fetches, hfetches, h⟩ := Option.bind_eq_some_iff.mp h
  cases h
  refine Fetching.exists_run_of_offers htexts fun place f hf => ?_
  obtain ⟨w, -, hw⟩ := exists_of_forall₂_right (mapM_eq_some.mp hfetches)
    (List.mem_of_getElem? hf)
  rw [(Fetch.settle_eq_some hw).2]
  exact Fetch.exists_offers_of_settle hw place

/-- **Without a service** nothing is asked, and every fetch fails for this reason. -/
theorem exists_run_none (hn : (ds.map Descriptor.name).Nodup) :
    ∃ stage, run none timeout cancelAt ds = some stage ∧ stage.Partitions ds ∧
      (∀ d ∈ wanting ds, stage.Gives d.name (.error .unavailable)) ∧
      stage.askedTexts = [] ∧ stage.events = [] := by
  have hrun : run none timeout cancelAt ds =
      some ⟨(wanted ds).map fun w => .unavailable w.1 w.2, false⟩ := rfl
  have hfor := isFor_of_run hrun
  refine ⟨_, hrun, hfor.partitions hn, fun d hd => ?_, rfl, rfl⟩
  have hwanted : (d.name, d.valueText?.getD "") ∈ wanted ds := by
    rw [wanted_eq_map]
    exact List.mem_map_of_mem hd
  exact gives_result (hfor.nodup_results hn) (List.mem_map_of_mem hwanted)

end EmbeddingStage

/-- **Every wanted vector ends as a vector or as a failure.** For a batch with distinct names, all
runs of its fetches come to an end, if there is something that ends each of them, and have then
settled them. The results that they can come to together are those that each can come to for itself.
A service that gives its answers at known moments brings about one of these runs, and without a
service nothing is asked. -/
theorem Fetching.settles_of_nodup (ds : List Descriptor) (hn : (ds.map Descriptor.name).Nodup)
    (timeout : Option Nat) :
    (∀ env turns s, Run timeout env (ofWanted (wanted ds)) turns s →
      turns.length ≤ 2 * (wanted ds).length + 1 ∧
      ((∀ (place : Nat) w, (wanted ds)[place]? = some w →
          ∃ ending, env.Offers timeout place w.2 ending) →
        s.IsOver ∨ ∃ turn s', Step timeout env s turn s') ∧
      (s.IsOver → ∃ stage, s.stage? = some stage ∧ Settles timeout env ds turns stage)) ∧
    (∀ (env : FetchEnvironment) results,
      (∃ turns s stage, Run timeout env (ofWanted (wanted ds)) turns s ∧ s.IsOver ∧
        s.stage? = some stage ∧ stage.fetches.map Fetch.result = results) ↔
      results.length = (wanted ds).length ∧ ∀ (place : Nat) w r, (wanted ds)[place]? = some w →
        results[place]? = some r →
          ∃ ending, env.Offers timeout place w.2 ending ∧ r = ending.result timeout) ∧
    (∀ embedder cancelAt,
      ((EmbeddingStage.run (some embedder) timeout cancelAt ds).isSome = true ↔
        ∀ w ∈ wanted ds, (embedder w.2).delay.isSome = true ∨ timeout.isSome = true ∨
          cancelAt.isSome = true) ∧
      ∀ stage, EmbeddingStage.run (some embedder) timeout cancelAt ds = some stage →
        ∃ turns s, Run timeout (.ofEmbedder embedder cancelAt) (ofWanted (wanted ds)) turns s ∧
          s.IsOver ∧ s.stage? = some stage) ∧
    ∀ cancelAt, ∃ stage, EmbeddingStage.run none timeout cancelAt ds = some stage ∧
      stage.Partitions ds ∧ (∀ d ∈ wanting ds, stage.Gives d.name (.error .unavailable)) ∧
      stage.askedTexts = [] ∧ stage.events = [] := by
  refine ⟨fun env turns s h => ⟨h.length_le, fun hends => ?_, fun ho => h.exists_settles ho hn⟩,
    fun env results => exists_run_iff,
    fun embedder cancelAt => ⟨isSome_run_iff, fun stage => exists_run_of_run⟩,
    fun cancelAt => exists_run_none hn⟩
  by_cases ho : s.IsOver
  · exact .inl ho
  · exact .inr (h.sound.exists_step hends ho)

/-- A search for the neighbours of a word. -/
def searchNear (name word : String) : Descriptor :=
  { (default : Descriptor) with
    id := some name, tables := some (.one "books"), value := some (.string word)
    vectorField := some "v" }

/-- Three searches for neighbours, one that is not executed, and one without a vector column. -/
def neighbours : List Descriptor :=
  [searchNear "a" "dune", searchNear "b" "boom",
    { searchNear "c" "emma" with execute := some false }, searchNear "d" "stall",
    { searchNear "e" "dune" with vectorField := none }]

/-- A service that fails for one word and does not answer to another. -/
def fickleEmbedder : Embedder := fun text =>
  if text = "boom" then ⟨some 1, .error (.request "503")⟩
  else if text = "stall" then ⟨none, .ok []⟩
  else ⟨some 2, .ok [.one]⟩

/-- One fetch gives a vector, one fails, and the deadline of one comes. -/
theorem Fetching.settles_of_nodup_neighbours :
    (neighbours.map Descriptor.name).Nodup ∧
    ∃ stage turns s,
      EmbeddingStage.run (some fickleEmbedder) (some 5) none neighbours = some stage ∧
      Run (some 5) (.ofEmbedder fickleEmbedder none) (ofWanted (wanted neighbours)) turns s ∧
      s.stage? = some stage ∧
      Settles (some 5) (.ofEmbedder fickleEmbedder none) neighbours turns stage ∧
      stage.vector? "a" = some [.one] ∧
      stage.failures = [("b", .request "503"), ("d", .timeout (.ofMillis 5))] ∧
      asked 1 turns = ["boom"] := by
  have hn : (neighbours.map Descriptor.name).Nodup := by decide
  obtain ⟨hruns, -, hservice, -⟩ := settles_of_nodup neighbours hn (some 5)
  have hstage : EmbeddingStage.run (some fickleEmbedder) (some 5) none neighbours = some ⟨[
      ⟨"a", "dune", 2, .ok [.one]⟩, ⟨"b", "boom", 1, .error (.request "503")⟩,
      ⟨"d", "stall", 5, .error (.timeout (.ofMillis 5))⟩], true⟩ := by
    rfl
  obtain ⟨turns, s, hrun, ho, hs⟩ := (hservice fickleEmbedder none).2 _ hstage
  obtain ⟨stage, hs', hsettles⟩ := (hruns _ _ _ hrun).2.2 ho
  cases hs.symm.trans hs'
  obtain ⟨text, ending, htext, hown, -⟩ := hsettles.own 1 _ rfl
  obtain rfl : "boom" = text := Option.some_inj.mp htext
  exact ⟨hn, _, turns, s, hstage, hrun, hs, hsettles, rfl, rfl, hown.asked⟩

end QueryBatch
