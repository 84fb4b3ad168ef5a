import QueryBatch.Proofs.Frame
import QueryBatch.Proofs.Resolution

/-! # The choice of an order

A search is ordered by the distance to a vector or by a column, never by both. Six inputs decide
which: the vector column, the vector of the descriptor, the vector that was fetched for it, the
column and the direction of the order, and the data columns. Everything else decides the rest of the
statement. So a search compiles to a text without an order, the order, and the page; and what is not
chosen leaves no trace. A statement written by hand has whatever order its author gave it.

* `Descriptor.unordered`, `Descriptor.orderClause`, `Descriptor.page`: the three parts.
* `Descriptor.compile_search_iff`: **a search compiles to its three parts**.
* `Descriptor.OrdersByOne`: what is not chosen does not matter.
  `Descriptor.ordersByOne_of_compile`: **so it is for every search that compiles**.
-/

namespace QueryBatch

open Outcome

namespace Descriptor

/-! ### The parts of a search -/

/-- **A search without its order and its page**, and its parameters. -/
def unordered (d : Descriptor) (countsRows : Bool) : Except QueryError (String × List Scalar) := do
  let tables ← d.resolveTables
  Identifier.checkAll d.fieldNames
  Identifier.checkAll d.includedFields
  let value ← Match.parse d.value
  let (tokens, params) ←
    Filter.tokens (value.map .contains) d.fieldNames (d.connective.getD .or) .empty
  let count := if countsRows then ", COUNT(*) OVER() AS " ++ Column.totalCount else ""
  pure ("SELECT " ++ (Text.joined ", " d.includedFields ++ count) ++
    " FROM " ++ Text.joined ", " tables ++
    whereClause (mergeConditions (conditionOf tokens) d.condition), params.bound)

/-- **The order of a search**, behind its keyword: by distance if there is a vector order, else by
the named column or the first data column, and none if there is no column either. -/
def orderClause (d : Descriptor) (embedded : Option (List Binary64)) (sortBy : SortOrder) :
    String :=
  match d.vectorOrder? embedded, d.sortField.or d.fieldNames.head? with
  | some v, _ => " ORDER BY " ++ v.field ++ " <-> " ++ vectorLiteral v.vector
  | none, some field => " ORDER BY " ++ field ++ " " ++ sortBy.name
  | none, none => ""

/-- **The page of a search.** -/
def page (d : Descriptor) (defaultSize : Nat) : String :=
  " LIMIT " ++ toString (d.size.getD defaultSize) ++
    (d.offset.map fun n => " OFFSET " ++ toString n).getD ""

variable {d : Descriptor} {embedded : Option (List Binary64)} {defaultSize : Nat}
  {countsRows : Bool} {c : String × Compiled}

theorem closing_eq (d : Descriptor) (embedded : Option (List Binary64)) (tables : List String)
    (value : Option Match) (sortBy : SortOrder) (defaultSize : Nat) :
    SearchQuery.closing {
      tables, value, sortBy
      includeFields := d.includedFields, dataFields := d.fieldNames
      connective := d.connective.getD .or, sortField := d.sortField
      vector := d.vectorOrder? embedded, condition := d.condition
      size := d.size.getD defaultSize, offset := d.offset } =
    d.orderClause embedded sortBy ++ d.page defaultSize := by
  unfold SearchQuery.closing SearchQuery.orderTokens orderClause page sortTokens
  cases d.vectorOrder? embedded with
  | some v =>
    apply String.ext
    simp [vectorTokens, Text.led]
  | none =>
    cases d.sortField.or d.fieldNames.head? with
    | none => simp [String.append_assoc]
    | some field =>
      apply String.ext
      simp [Text.led]

/-- **A search compiles** if and only if its text without an order does and all that is said of its
order is valid; its statement is put together from the three parts. -/
theorem compile_search_iff (hs : d.statement? = none)
    (hk : d.kindOrDefault = .search ∨ d.kindOrDefault = .suggestion) :
    d.compile embedded defaultSize countsRows = .ok c ↔
      ∃ text bound sortBy, d.unordered countsRows = .ok (text, bound) ∧
        Identifier.checkOptional d.sortField = .ok () ∧ d.resolveOrder = .ok sortBy ∧
        d.resolveVector embedded = .ok (d.vectorOrder? embedded) ∧
        c = (d.name, ⟨some ⟨text ++ d.orderClause embedded sortBy ++ d.page defaultSize, bound⟩,
          .search⟩) := by
  unfold compile resolve unordered
  simp only [hs, resolveKind_of_search hk, resolveSearch]
  constructor
  · intro h
    obtain ⟨named, hn, h⟩ := bind_eq_ok.mp h
    obtain ⟨tables, ht, hn⟩ := bind_eq_ok.mp hn
    obtain ⟨⟨⟩, hf, hn⟩ := bind_eq_ok.mp hn
    obtain ⟨query, hq, hn⟩ := bind_eq_ok.mp hn
    obtain ⟨search, hsearch, rfl⟩ := map_eq_ok.mp hq
    obtain ⟨⟨⟩, hi, hsearch⟩ := bind_eq_ok.mp hsearch
    obtain ⟨⟨⟩, ho, hsearch⟩ := bind_eq_ok.mp hsearch
    obtain ⟨sortBy, hb, hsearch⟩ := bind_eq_ok.mp hsearch
    obtain ⟨vector, hv, hsearch⟩ := bind_eq_ok.mp hsearch
    obtain ⟨value, hm, hsearch⟩ := bind_eq_ok.mp hsearch
    cases hn
    cases hsearch
    obtain ⟨compiled, hc, h⟩ := bind_eq_ok.mp h
    obtain ⟨⟨tokens, params⟩, htokens, hc⟩ := bind_eq_ok.mp hc
    cases hc
    cases h
    obtain rfl := eq_vectorOrder? hv
    refine ⟨_, _, sortBy, bind_eq_ok.mpr ⟨tables, ht, bind_eq_ok.mpr ⟨(), hf,
      bind_eq_ok.mpr ⟨(), hi, bind_eq_ok.mpr ⟨value, hm, bind_eq_ok.mpr ⟨_, htokens, rfl⟩⟩⟩⟩⟩,
      ho, hb, hv, ?_⟩
    rw [SearchQuery.joined_words, closing_eq, ← String.append_assoc]
    rfl
  · rintro ⟨text, bound, sortBy, hu, ho, hb, hv, rfl⟩
    obtain ⟨tables, ht, hu⟩ := bind_eq_ok.mp hu
    obtain ⟨⟨⟩, hf, hu⟩ := bind_eq_ok.mp hu
    obtain ⟨⟨⟩, hi, hu⟩ := bind_eq_ok.mp hu
    obtain ⟨value, hm, hu⟩ := bind_eq_ok.mp hu
    obtain ⟨⟨tokens, params⟩, htokens, hu⟩ := bind_eq_ok.mp hu
    cases hu
    simp only [ht, hf, hi, ho, hb, hv, hm, bind, Except.bind, pure, Except.pure, Except.map]
    simp only [Query.compile, SearchQuery.compile, htokens, bind, Except.bind, pure, Except.pure]
    rw [SearchQuery.joined_words, closing_eq, ← String.append_assoc]
    rfl

theorem compile_written {s : String} (hs : d.statement? = some s) :
    d.compile embedded defaultSize countsRows = (do
      let _ ← d.resolveTables
      Identifier.checkAll d.fieldNames
      pure (d.name, ⟨some ⟨s, []⟩, .written d.kindOrDefault d.fieldNames.head?⟩)) := by
  unfold compile resolve
  simp only [hs]
  cases d.resolveTables with
  | error e => rfl
  | ok tables => cases Identifier.checkAll d.fieldNames <;> rfl

/-! ### The choice -/

/-- An order by distance does not name the direction and the column of another order. -/
theorem orderClause_eq_of_hasVectorOrder {d' : Descriptor} {embedded' : Option (List Binary64)}
    (h : d.HasVectorOrder embedded) (heq : d'.vectorOrder? embedded' = d.vectorOrder? embedded)
    (sortBy sortBy' : SortOrder) :
    d'.orderClause embedded' sortBy' = d.orderClause embedded sortBy := by
  obtain ⟨v, hv⟩ := Option.isSome_iff_exists.mp (isSome_vectorOrder?_iff.mpr h)
  unfold orderClause
  rw [heq, hv]

/-- **An order by one of the two**: a search is ordered by distance or by a column, and what it is
not ordered by does not matter. -/
structure OrdersByOne (d : Descriptor) (embedded : Option (List Binary64)) (defaultSize : Nat)
    (countsRows : Bool) (c : String × Compiled) : Prop where
  /-- An order by distance: the column and the direction of another order can be replaced. -/
  distance : d.HasVectorOrder embedded → ∀ column word,
    (∀ f ∈ column, Identifier.isSafe f = true) →
    (∀ w ∈ word, ∃ order, SortOrder.parse w = .ok order) →
      { d with sortField := column, sortBy := word }.compile embedded defaultSize countsRows = .ok c
  /-- A vector of its own: none that is fetched counts. -/
  own : d.vector ≠ none → ∀ fetched, d.compile fetched defaultSize countsRows = .ok c
  /-- No order by distance: the vector and its column can be taken away. -/
  column : ¬ d.HasVectorOrder embedded →
    { d with vectorField := none, vector := none }.compile none defaultSize countsRows = .ok c
  /-- Nothing but the order of a search depends on the six inputs. -/
  clause : d.statement? = none → ∃ text bound sortBy, d.unordered countsRows = .ok (text, bound) ∧
    d.resolveOrder = .ok sortBy ∧
    c.2.statement = some ⟨text ++ d.orderClause embedded sortBy ++ d.page defaultSize, bound⟩
  /-- A statement written by hand stays as it is. -/
  written : ∀ s, d.statement? = some s → c.2.statement = some ⟨s, []⟩

theorem ordersByOne_of_written {s : String} (hs : d.statement? = some s)
    (h : d.compile embedded defaultSize countsRows = .ok c) :
    d.OrdersByOne embedded defaultSize countsRows c := by
  rw [compile_written hs] at h
  refine ⟨fun _ column word _ _ => ?_, fun _ fetched => ?_, fun _ => ?_, fun hn => ?_,
    fun s' hs' => ?_⟩
  · exact (compile_written (d := { d with sortField := column, sortBy := word }) hs).trans h
  · exact (compile_written hs).trans h
  · exact (compile_written (d := { d with vectorField := none, vector := none }) hs).trans h
  · rw [hs] at hn
    cases hn
  · obtain ⟨tables, -, h⟩ := bind_eq_ok.mp h
    obtain ⟨⟨⟩, -, h⟩ := bind_eq_ok.mp h
    cases hs.symm.trans hs'
    cases h
    rfl

theorem ordersByOne_of_search (hs : d.statement? = none)
    (hk : d.kindOrDefault = .search ∨ d.kindOrDefault = .suggestion)
    (h : d.compile embedded defaultSize countsRows = .ok c) :
    d.OrdersByOne embedded defaultSize countsRows c := by
  obtain ⟨text, bound, sortBy, hu, ho, hb, hv, rfl⟩ := (compile_search_iff hs hk).mp h
  refine ⟨fun hd column word hcolumn hword => ?_, fun hown fetched => ?_, fun hn => ?_,
    fun _ => ⟨text, bound, sortBy, hu, hb, rfl⟩, fun s hs' => ?_⟩
  · obtain ⟨order, horder⟩ :=
      (exists_resolveOrder_iff (d := { d with sortField := column, sortBy := word })).mpr hword
    have hclause : { d with sortField := column, sortBy := word }.orderClause embedded order =
        d.orderClause embedded sortBy := by
      refine orderClause_eq_of_hasVectorOrder hd ?_ sortBy order
      rfl
    refine (compile_search_iff (d := { d with sortField := column, sortBy := word }) hs hk).mpr
      ⟨text, bound, order, hu, checkOptional_eq_ok_iff.mpr hcolumn, horder, hv, ?_⟩
    rw [hclause]
    rfl
  · have hsame : d.effectiveVector fetched = d.effectiveVector embedded :=
      effectiveVector_of_own hown embedded
    have hclause : d.orderClause fetched sortBy = d.orderClause embedded sortBy := by
      unfold orderClause vectorOrder?
      rw [hsame]
    refine (compile_search_iff hs hk).mpr ⟨text, bound, sortBy, hu, ho, hb, ?_, ?_⟩
    · unfold resolveVector vectorOrder? at hv ⊢
      rwa [hsame]
    · rw [hclause]
  · refine (compile_search_iff (d := { d with vectorField := none, vector := none }) hs hk).mpr
      ⟨text, bound, sortBy, hu, ho, hb, rfl, ?_⟩
    unfold orderClause
    rw [vectorOrder?_eq_none hn]
    rfl
  · rw [hs] at hs'
    cases hs'

/-- **What is not chosen does not matter** to any search or suggestion that compiles. -/
theorem ordersByOne_of_compile
    (hk : d.kindOrDefault = .search ∨ d.kindOrDefault = .suggestion)
    (h : d.compile embedded defaultSize countsRows = .ok c) :
    d.OrdersByOne embedded defaultSize countsRows c := by
  cases hs : d.statement? with
  | none => exact ordersByOne_of_search hs hk h
  | some s => exact ordersByOne_of_written hs h

/-- A search for neighbours, with an order by a column too. -/
def nearest : Descriptor :=
  { (default : Descriptor) with
    id := some "q", tables := some (.one "books"), dataFields := some (.one "title")
    sortField := some "year", sortBy := some "DESC", vectorField := some "v" }

/-- With a vector the year does not count; without one it does. -/
theorem ordersByOne_nearest :
    (∃ c, nearest.compile (some [.one]) 10 false = .ok c ∧
      c.2.statement = some ⟨"SELECT * FROM books ORDER BY v <-> '[1]' LIMIT 10", []⟩ ∧
      { nearest with sortField := none, sortBy := some "asc" }.compile (some [.one]) 10 false =
        .ok c) ∧
    ∃ c, nearest.compile none 10 false = .ok c ∧
      c.2.statement = some ⟨"SELECT * FROM books ORDER BY year desc LIMIT 10", []⟩ ∧
      { nearest with vectorField := none, vector := none }.compile none 10 false = .ok c := by
  have hwith : nearest.compile (some [.one]) 10 false =
      .ok ("q", ⟨some ⟨"SELECT * FROM books ORDER BY v <-> '[1]' LIMIT 10", []⟩, .search⟩) := by
    decide +kernel
  have hwithout : nearest.compile none 10 false =
      .ok ("q", ⟨some ⟨"SELECT * FROM books ORDER BY year desc LIMIT 10", []⟩, .search⟩) := by
    decide +kernel
  refine ⟨⟨_, hwith, rfl, ?_⟩, _, hwithout, rfl, ?_⟩
  · refine (ordersByOne_of_compile (.inl rfl) hwith).distance (by decide) none (some "asc") nofun ?_
    rintro w ⟨⟩
    exact ⟨.asc, by decide +kernel⟩
  · exact (ordersByOne_of_compile (.inl rfl) hwithout).column (by decide)

/-- A statement written by hand, with a column for an order. -/
def writtenTitles : Descriptor :=
  { (default : Descriptor) with
    id := some "titles", tables := some (.one "books"), dataFields := some (.one "title")
    sortField := some "year", handWritten := some ⟨some "SELECT title FROM books"⟩ }

/-- **A statement written by hand is not ordered** by the column of its descriptor. -/
theorem not_ordered_writtenTitles :
    writtenTitles.kindOrDefault = .search ∧ ¬ writtenTitles.HasVectorOrder none ∧
    ∃ c s, writtenTitles.compile none 10 false = .ok c ∧ c.2.statement = some s ∧
      ¬ " ORDER BY year asc".toList <:+: s.sql.toList := by
  have h : writtenTitles.compile none 10 false =
      .ok ("titles", ⟨some ⟨"SELECT title FROM books", []⟩, .written .search (some "title")⟩) := by
    decide +kernel
  exact ⟨rfl, by decide, _, _, h, rfl, by decide +kernel⟩

end Descriptor

end QueryBatch
