import QueryBatch.Engine
import QueryBatch.Proofs.Acceptance
import QueryBatch.Proofs.Frame
import QueryBatch.Proofs.Resolution

/-! # Translating and serving a batch

A batch is translated to be looked at, and served to be answered. Both accept the same batches and
compile the same descriptors in the same order, so both fail with the same error; and what is run is
what the translation shows, except that a served search also counts its rows.

* `Descriptor.IsServedAs`: the statement that is run for a translated one.
* `Engine.Agreement`, `Engine.translate_agrees_query`: **translating and serving agree**.
-/

namespace QueryBatch

open Outcome

/-! ### Compiling for both -/

/-- **The statement that is run for a translated one**: the same, or in a search the same with the
number of rows behind the selected columns. -/
def Descriptor.IsServedAs (d : Descriptor) (translated served : Statement) : Prop :=
  served.params = translated.params ∧
    if d.statement? = none ∧ (d.kindOrDefault = .search ∨ d.kindOrDefault = .suggestion) then
      ∃ rest,
        translated.sql = "SELECT " ++ Text.joined ", " d.includedFields ++ rest ∧
        served.sql = "SELECT " ++ Text.joined ", " d.includedFields ++
          ", COUNT(*) OVER() AS rs__total_count" ++ rest
    else served.sql = translated.sql

/-- Compiled queries that differ in the statement that is run. -/
structure Descriptor.CompiledAlike (d : Descriptor) (c c' : Compiled) : Prop where
  shape : c.shape = c'.shape
  statement : Option.Rel d.IsServedAs c.statement c'.statement

/-- The number of rows is selected behind the columns; all else is the same. -/
theorem SearchQuery.joined_words_counting (q : SearchQuery) (condition : Option String) :
    ∃ rest,
      Text.joined " " (q.words false condition) =
        "SELECT " ++ Text.joined ", " q.includeFields ++ rest ∧
      Text.joined " " (q.words true condition) =
        "SELECT " ++ Text.joined ", " q.includeFields ++ ", COUNT(*) OVER() AS rs__total_count" ++
          rest := by
  have hcount : ", COUNT(*) OVER() AS " ++ Column.totalCount =
      ", COUNT(*) OVER() AS rs__total_count" := by decide
  refine ⟨" FROM " ++ Text.joined ", " q.tables ++ whereClause condition ++ q.closing, ?_, ?_⟩
  · rw [joined_words, opening, selected]
    simp only [Bool.false_eq_true, if_false, String.append_empty, String.append_assoc]
  · rw [joined_words, opening, selected, if_pos rfl, hcount]
    simp only [String.append_assoc]

namespace Descriptor

variable {d : Descriptor} {embedded : Option (List Binary64)} {defaultSize : Nat}

theorem compiledAlike_refl
    (h : ¬ (d.statement? = none ∧ (d.kindOrDefault = .search ∨ d.kindOrDefault = .suggestion)))
    (c : Compiled) : d.CompiledAlike c c := by
  refine ⟨rfl, ?_⟩
  cases c.statement with
  | none => exact .none
  | some s => exact .some ⟨rfl, by rw [if_neg h]⟩

theorem ResolvesTo.compile_agree {q : Query} (h : d.ResolvesTo embedded defaultSize q) :
    Alike Eq d.CompiledAlike (q.compile false) (q.compile true) := by
  cases h with
  | written hs =>
    refine .refl (fun _ => rfl) (compiledAlike_refl ?_) _
    rintro ⟨hnone, -⟩
    rw [hs] at hnone
    cases hnone
  | term hs hk | range hs hk =>
    refine .refl (fun _ => rfl) (compiledAlike_refl ?_) _
    rintro ⟨-, hsearch⟩
    rw [hk] at hsearch
    rcases hsearch with hsearch | hsearch <;> cases hsearch
  | @search sortBy vector value hs hk =>
    refine (Alike.same (fun _ => rfl) _).bind ?_
    rintro ⟨tokens, params⟩ _ rfl
    refine .done ⟨rfl, .some ⟨rfl, ?_⟩⟩
    rw [if_pos ⟨hs, hk⟩]
    exact SearchQuery.joined_words_counting _ _

/-- **A descriptor compiles to both in step.** -/
theorem compile_agree (d : Descriptor) (embedded : Option (List Binary64)) (defaultSize : Nat) :
    Alike Eq (fun r r' : String × Compiled =>
        r.1 = d.name ∧ r'.1 = d.name ∧ d.CompiledAlike r.2 r'.2)
      (d.compile embedded defaultSize false) (d.compile embedded defaultSize true) := by
  unfold compile
  cases hr : d.resolve embedded defaultSize with
  | error e => exact .failed rfl
  | ok n =>
    obtain ⟨hn, -, -, -, hq⟩ := resolve_eq_ok hr
    refine hq.compile_agree.bind fun c c' hc => .done ⟨hn, hn, hc⟩

end Descriptor

/-! ### What is run -/

/-- A compiled query and what became of it. -/
structure Settled.IsOf (r : String × Compiled) (s : Settled) : Prop where
  name : s.name = r.1
  shape : s.shape = r.2.shape
  statement : s.call.map Prod.fst = r.2.statement

theorem Schedule.forall₂_of_runWith {limits : ExecutionLimits} {cancelAt : Option Nat}
    {store : Store} {begin : Nat} {permits : Permits} {compiled : List (String × Compiled)}
    {settled : List Settled}
    (h : runWith limits cancelAt store begin permits compiled = some settled) :
    List.Forall₂ Settled.IsOf compiled settled := by
  induction compiled generalizing permits settled with
  | nil =>
    cases h
    exact .nil
  | cons r rest ih =>
    obtain ⟨name, c⟩ := r
    rw [runWith] at h
    cases hs : c.statement with
    | none =>
      simp only [hs] at h
      obtain ⟨others, hr, h⟩ := Option.bind_eq_some_iff.mp h
      cases h
      exact .cons ⟨rfl, rfl, hs.symm⟩ (ih hr)
    | some statement =>
      simp only [hs] at h
      obtain ⟨call, -, h⟩ := Option.bind_eq_some_iff.mp h
      obtain ⟨others, hr, h⟩ := Option.bind_eq_some_iff.mp h
      cases h
      exact .cons ⟨rfl, rfl, hs.symm⟩ (ih hr)

theorem EmbeddingStage.run_of_unwanted {embedder : Option Embedder} {timeout cancelAt : Option Nat}
    {ds : List Descriptor} (h : ∀ d ∈ ds, d.textToEmbed? = none) :
    run embedder timeout cancelAt ds = some ⟨[], embedder.isSome⟩ := by
  have hwanted : wanted ds = [] := by
    refine List.filterMap_eq_nil_iff.mpr fun d hd => ?_
    rw [h d hd]
    rfl
  unfold run
  rw [hwanted]
  cases embedder <;> rfl

namespace Engine

theorem compileAll_of_no_fetches (settings : Settings) (isAsked : Bool) (ds : List Descriptor) :
    compileAll settings ⟨[], isAsked⟩ ds =
      ds.mapM fun d => d.compile none settings.defaultSize true := by
  have hall : (ds.filter fun d => !(EmbeddingStage.mk [] isAsked).hasFailed d.name) = ds :=
    List.filter_eq_self.mpr fun _ _ => rfl
  rw [compileAll, hall]
  rfl

/-- A compiled query of a translation beside the same one of an answer. -/
def Compiles (ds : List Descriptor) (r r' : String × Compiled) : Prop :=
  ∃ d ∈ ds, r.1 = d.name ∧ r'.1 = d.name ∧ d.CompiledAlike r.2 r'.2

/-- **Both compile the same descriptors in the same order.** -/
theorem translateAll_agree (settings : Settings) (isAsked : Bool) (ds : List Descriptor) :
    Alike Eq (List.Forall₂ (Compiles (executed ds))) (translateAll settings ds)
      (compileAll settings ⟨[], isAsked⟩ (executed ds)) := by
  rw [compileAll_of_no_fetches]
  refine .mapM fun d hd => (d.compile_agree none settings.defaultSize).imp ?_
  rintro r r' - - ⟨hr, hr', halike⟩
  exact ⟨d, hd, hr, hr', halike⟩

theorem map_fst_of_compile {embedded : Option (List Binary64)} {defaultSize : Nat}
    {countsRows : Bool} {ds : List Descriptor} {l : List (String × Compiled)}
    (h : ds.mapM (fun d => d.compile embedded defaultSize countsRows) = .ok l) :
    l.map Prod.fst = ds.map Descriptor.name := by
  induction ds generalizing l with
  | nil =>
    cases h
    rfl
  | cons d r ih =>
    rw [List.mapM_cons] at h
    obtain ⟨c, hc, h⟩ := bind_eq_ok.mp h
    obtain ⟨rest, hr, h⟩ := bind_eq_ok.mp h
    cases h
    rw [List.map_cons, List.map_cons, ih hr, (Descriptor.compile_eq_ok hc).1]

/-- **What is run is what the translation shows**, query by query. -/
structure Agreement (ds : List Descriptor) (translated : Keyed Compiled)
    (settled : List Settled) : Prop where
  names : settled.map Settled.name = (executed ds).map Descriptor.name
  nodup : (settled.map Settled.name).Nodup
  keys : ∀ k, (translated.get? k).isSome ↔ k ∈ settled.map Settled.name
  each : ∀ s ∈ settled, ∃ d ∈ executed ds, d.name = s.name ∧
    ∃ c, translated.get? s.name = some c ∧ s.shape = c.shape ∧
      Option.Rel d.IsServedAs c.statement (s.call.map Prod.fst)

theorem agreement_of_forall₂ {ds : List Descriptor} {translated served : List (String × Compiled)}
    {settled : List Settled} (hn : (ds.map Descriptor.name).Nodup)
    (ht : translated.map Prod.fst = (executed ds).map Descriptor.name)
    (hc : List.Forall₂ (Compiles (executed ds)) translated served)
    (hs : List.Forall₂ Settled.IsOf served settled) :
    Agreement ds (Keyed.ofList translated) settled := by
  have hnames : settled.map Settled.name = translated.map Prod.fst := by
    have hserved : translated.map Prod.fst = served.map Prod.fst := by
      refine map_eq_of_forall₂ hc ?_
      rintro r r' ⟨d, -, hr, hr', -⟩
      rw [hr, hr']
    have hsettled : served.map Prod.fst = settled.map Settled.name :=
      map_eq_of_forall₂ hs fun _ _ h => h.name.symm
    rw [hserved, hsettled]
  have hnodup : (translated.map Prod.fst).Nodup := by
    rw [ht]
    exact hn.sublist (List.filter_sublist.map _)
  refine ⟨hnames.trans ht, hnames ▸ hnodup, fun k => ?_, fun s hm => ?_⟩
  · rw [hnames, Keyed.get?_ofList k hnodup, Option.isSome_iff_ne_none, ne_eq,
      Keyed.get?_eq_none_iff, not_not]
  · obtain ⟨r', hr', hof⟩ := exists_of_forall₂_right hs hm
    obtain ⟨r, hr, d, hd, hname, hname', halike⟩ := exists_of_forall₂_right hc hr'
    have hsame : s.name = r.1 := by rw [hof.name, hname', hname]
    refine ⟨d, hd, by rw [hsame, hname], r.2, ?_, ?_, ?_⟩
    · rw [Keyed.get?_ofList _ hnodup, hsame]
      exact Keyed.get?_of_mem hnodup hr
    · rw [hof.shape, halike.shape]
    · rw [hof.statement]
      exact halike.statement

/-- **Translating and serving agree.** If no descriptor of a batch that takes part wants a vector,
then the batch is rejected by both with the same error or by neither; and if by neither, what is run
is what the translation shows. -/
theorem translate_agrees_query (settings : Settings) (embedder : Option Embedder) (store : Store)
    (cancelAt : Option Nat) (batch : List Json)
    (hw : ∀ ds, Batch.accept batch = .ok ds →
      ∀ d ∈ ds, d.isExecuted = true → d.wantsEmbedding = false) :
    (∀ e, (translate settings batch).result = .error e ↔
      ∃ a, query settings embedder store cancelAt batch = some a ∧ a.result = .error e) ∧
    ∀ t a, (translate settings batch).result = .ok t →
      query settings embedder store cancelAt batch = some a →
      ∃ ds response, Batch.accept batch = .ok ds ∧ a.result = .ok response ∧
        Agreement ds t a.settled := by
  unfold translate query
  cases hb : Batch.accept batch with
  | error r =>
    dsimp only
    refine ⟨fun e => ⟨fun h => ?_, ?_⟩, fun t a ht => ?_⟩
    · cases h
      exact ⟨_, rfl, rfl⟩
    · rintro ⟨a, ha, he⟩
      cases ha
      cases he
      rfl
    · cases ht
  | ok ds =>
    have hunwanted : ∀ d ∈ executed ds, d.textToEmbed? = none := by
      intro d hd
      obtain ⟨hm, hexecuted⟩ := List.mem_filter.mp hd
      rw [Descriptor.textToEmbed?, hw ds hb d hm hexecuted, Bool.and_false]
      rfl
    have hnames := fun l (h : translateAll settings ds = .ok l) => map_fst_of_compile h
    have hagree := translateAll_agree settings embedder.isSome ds
    simp only [answer, EmbeddingStage.run_of_unwanted hunwanted, Option.bind_eq_bind,
      Option.bind_some]
    generalize translateAll settings ds = translated at hnames hagree ⊢
    generalize compileAll settings ⟨[], embedder.isSome⟩ (executed ds) = served at hagree ⊢
    cases hagree with
    | @failed e _ he =>
      subst he
      refine ⟨fun e => ⟨fun h => ?_, ?_⟩, fun t a ht => ?_⟩
      · cases h
        exact ⟨_, rfl, rfl⟩
      · rintro ⟨a, ha, he⟩
        cases ha
        cases he
        rfl
      · cases ht
    | @done translated served hc =>
      refine ⟨fun e => ⟨fun h => ?_, ?_⟩, fun t a ht ha => ?_⟩
      · cases h
      · rintro ⟨a, ha, he⟩
        obtain ⟨settled, -, ha⟩ := Option.bind_eq_some_iff.mp ha
        cases ha
        cases he
      · obtain ⟨settled, hs, ha⟩ := Option.bind_eq_some_iff.mp ha
        cases ht
        cases ha
        exact ⟨ds, _, rfl, rfl, agreement_of_forall₂ (Batch.nodup_names hb) (hnames _ rfl) hc
          (Schedule.forall₂_of_runWith hs)⟩

/-- A search, a term query, and a range query that asks for nothing. -/
def mixedBatch : List Json := [
  .object [("dataField", .string "title"), ("id", .string "titles"), ("table", .string "books"),
    ("value", .string "dune")],
  .object [("dataField", .string "genre"), ("id", .string "genres"), ("table", .string "books"),
    ("type", .string "term")],
  .object [("dataField", .string "year"), ("id", .string "years"), ("table", .string "books"),
    ("type", .string "range")]]

/-- A store that answers every statement at once. -/
def emptyStore : Store := fun _ => ⟨some 0, .rows []⟩

/-- Of the three queries two are run, and the search counts its rows. -/
theorem translate_agrees_query_mixed :
    (∀ ds, Batch.accept mixedBatch = .ok ds →
      ∀ d ∈ ds, d.isExecuted = true → d.wantsEmbedding = false) ∧
    ∃ ds t a, (translate .default mixedBatch).result = .ok t ∧
      query .default none emptyStore none mixedBatch = some a ∧ Agreement ds t a.settled ∧
      a.settled.map (fun s => s.call.map Prod.fst) = [
        some ⟨"SELECT *, COUNT(*) OVER() AS rs__total_count FROM books " ++
          "WHERE title LIKE $1 ORDER BY title asc LIMIT 10", [.text "%dune%"]⟩,
        some ⟨"SELECT genre, COUNT(*) AS rs__term_count_genre FROM books " ++
          "GROUP BY genre ORDER BY rs__term_count_genre DESC", []⟩,
        none] := by
  have hw : ∀ ds, Batch.accept mixedBatch = .ok ds →
      ∀ d ∈ ds, d.isExecuted = true → d.wantsEmbedding = false := by
    have hall : ∀ d ∈ (Batch.accept mixedBatch).toOption.getD [],
        d.isExecuted = true → d.wantsEmbedding = false := by
      decide +kernel
    intro ds hds
    rw [hds] at hall
    exact hall
  have hok : (translate .default mixedBatch).result.isOk = true := by decide +kernel
  have hcalls : (query .default none emptyStore none mixedBatch).map
      (fun a => a.settled.map fun s => s.call.map Prod.fst) = some [
        some ⟨"SELECT *, COUNT(*) OVER() AS rs__total_count FROM books " ++
          "WHERE title LIKE $1 ORDER BY title asc LIMIT 10", [.text "%dune%"]⟩,
        some ⟨"SELECT genre, COUNT(*) AS rs__term_count_genre FROM books " ++
          "GROUP BY genre ORDER BY rs__term_count_genre DESC", []⟩,
        none] := by
    decide +kernel
  obtain ⟨a, ha, hcalls⟩ := Option.map_eq_some_iff.mp hcalls
  cases ht : (translate .default mixedBatch).result with
  | error e =>
    rw [ht] at hok
    cases hok
  | ok t =>
    obtain ⟨ds, -, -, -, hagreement⟩ :=
      (translate_agrees_query .default none emptyStore none mixedBatch hw).2 t a ht ha
    exact ⟨hw, ds, t, a, rfl, ha, hagreement, hcalls⟩

end Engine

end QueryBatch
