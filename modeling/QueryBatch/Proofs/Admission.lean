import QueryBatch.Proofs.Binding
import QueryBatch.Proofs.HistogramParts

/-! # Which descriptors compile

A descriptor is refused at many places: when its relations and columns are looked at, when its value
is read, and again when a condition or a statement is put together. Which of these places is reached
depends on its kind, on whether it brings a statement of its own, and on what it leaves out. All of
them together come to a few demands on the descriptor itself, and a descriptor that meets them
compiles.

* `Json.IsMatchable`, `Json.IsRange`: values that can be matched with, and values that are ranges.
* `Match.exists_parse_iff`, `Range.exists_parse_iff`: these are the values that can be read.
* `SearchQuery.exists_compile_iff`, `TermQuery.exists_compile_iff`, `RangeQuery.exists_compile_iff`:
  the queries that have a statement.
* `Descriptor.IsAdmissible`: the demands on a descriptor.
* `Descriptor.compiles_iff`: **a descriptor compiles if and only if it is admissible**.
-/

namespace QueryBatch

open Outcome

/-! ### Values -/

namespace Json

/-- Neither an array nor an object. -/
def isFlat : Json → Bool
  | .null | .bool _ | .number _ | .string _ => true
  | .array _ | .object _ => false

/-- **Values to match with**: no objects, and no arrays with anything but flat values in them. -/
def IsMatchable : Json → Prop
  | .array items => ∀ j ∈ items, j.isFlat = true
  | j => j.isFlat = true

/-- Null, a number or a text. -/
def isBound : Json → Bool
  | .null | .number _ | .string _ => true
  | .bool _ | .array _ | .object _ => false

/-- **Ranges**: null, or an object whose ends are null, numbers or texts if they are there. -/
def IsRange : Json → Prop
  | .null => True
  | .object fields => (∀ j ∈ Keyed.get? "start" fields, j.isBound = true) ∧
    ∀ j ∈ Keyed.get? "end" fields, j.isBound = true
  | .bool _ | .number _ | .string _ | .array _ => False

end Json

theorem Scalar.exists_parse_iff {j : Json} : (∃ o, Scalar.parse j = .ok o) ↔ j.isFlat = true := by
  cases j <;> simp [Scalar.parse, Json.isFlat]

/-- **The values that can be matched with.** -/
theorem Match.exists_parse_iff {v : Option Json} :
    (∃ m, Match.parse v = .ok m) ↔ ∀ j ∈ v, j.IsMatchable := by
  cases v with
  | none => simp [Match.parse]
  | some j =>
    have hvalue : (∀ j' ∈ some j, j'.IsMatchable) ↔ j.IsMatchable := by simp
    rw [hvalue]
    cases j with
    | array items =>
      unfold Match.parse
      rw [exists_bind_eq_ok]
      simp only [pure_eq_ok, Except.ok.injEq, exists_eq', and_true]
      rw [exists_mapM_eq_ok_iff]
      exact forall₂_congr fun j _ => Scalar.exists_parse_iff
    | null | bool | number | string | object =>
      unfold Match.parse
      rw [exists_bind_eq_ok]
      simp only [pure_eq_ok, Except.ok.injEq, exists_eq', and_true]
      exact Scalar.exists_parse_iff

theorem Match.isSome_iff_scalars {j : Json} {m : Option Match}
    (h : Match.parse (some j) = .ok m) : m.isSome = true ↔ j.scalars ≠ [] := by
  have hscalars := Match.parse_eq_ok h
  rw [← hscalars]
  cases m with
  | none => simp
  | some m =>
    have hne := Match.scalars_ne_nil h
    simpa using hne

theorem Bound.exists_parse_iff {side : String} {v : Option Json} :
    (∃ b, Bound.parse side v = .ok b) ↔ ∀ j ∈ v, j.isBound = true := by
  cases v with
  | none => simp [Bound.parse]
  | some j => cases j <;> simp [Bound.parse, Json.isBound]

/-- **The values that can be read as ranges.** -/
theorem Range.exists_parse_iff {v : Option Json} :
    (∃ r, Range.parse v = .ok r) ↔ ∀ j ∈ v, j.IsRange := by
  cases v with
  | none => simp [Range.parse]
  | some j =>
    have hvalue : (∀ j' ∈ some j, j'.IsRange) ↔ j.IsRange := by simp
    rw [hvalue]
    cases j with
    | null => simp [Range.parse, Json.IsRange]
    | object fields =>
      unfold Range.parse
      simp only [exists_bind_eq_ok, pure_eq_ok, Except.ok.injEq, exists_eq', and_true]
      rw [exists_and_right]
      exact and_congr Bound.exists_parse_iff Bound.exists_parse_iff
    | bool | number | string | array => simp [Range.parse, Json.IsRange]

theorem SortOrder.exists_parse_iff {word : String} :
    (∃ o, SortOrder.parse word = .ok o) ↔ lowered word = "asc" ∨ lowered word = "desc" := by
  unfold SortOrder.parse
  by_cases hasc : lowered word = "asc"
  · simp [hasc]
  · by_cases hdesc : lowered word = "desc"
    · simp [hdesc]
    · simp [hasc, hdesc]

/-! ### Queries that have a statement -/

theorem Filter.exists_tokens_iff {filter : Option Filter} {fields : List String}
    {connective : Connective} {params : Params} :
    (∃ t, Filter.tokens filter fields connective params = .ok t) ↔
      (filter.isSome = true → fields ≠ []) := by
  cases filter with
  | none => simp [Filter.tokens]
  | some f => cases fields <;> simp [Filter.tokens]

theorem SearchQuery.exists_compile_iff {q : SearchQuery} {countsRows : Bool} :
    (∃ c, q.compile countsRows = .ok c) ↔ (q.value.isSome = true → q.dataFields ≠ []) := by
  unfold SearchQuery.compile
  rw [exists_bind_eq_ok]
  simp only [pure_eq_ok, Except.ok.injEq, exists_eq', and_true]
  rw [Filter.exists_tokens_iff, Option.isSome_map]

theorem TermQuery.exists_compile_iff {q : TermQuery} :
    (∃ c, q.compile = .ok c) ↔ q.dataFields ≠ [] := by
  unfold TermQuery.compile
  cases q.dataFields <;> simp

namespace RangeQuery

variable {q : RangeQuery}

theorem exists_sql_iff {field table : String} {condition : Option String}
    {bounds : Option BoundsStatement} : (∃ sql, q.sql field table condition bounds = .ok sql) ↔
      (q.wants .histogram = true →
        ∃ width ∈ q.interval, width.isFinite = true ∧ width.isPositive = true) := by
  unfold RangeQuery.sql
  by_cases hh : q.wants .histogram = true
  · rw [if_pos hh]
    cases hw : q.width? with
    | none =>
      rw [width?, Option.filter_eq_none_iff] at hw
      simpa [hh] using hw
    | some width =>
      rw [width?, Option.filter_eq_some_iff, Bool.and_eq_true] at hw
      simpa using fun _ => ⟨width, hw⟩
  · rw [if_neg hh]
    simp [hh]

theorem exists_compileOn_iff {field table : String} :
    (∃ c, q.compileOn field table = .ok c) ↔
      (q.wants .histogram = true →
        ∃ width ∈ q.interval, width.isFinite = true ∧ width.isPositive = true) := by
  have hfilter : ∃ t, Filter.tokens (q.value.map .range) [field] .or .empty = .ok t :=
    Filter.exists_tokens_iff.mpr fun _ => List.cons_ne_nil _ _
  constructor
  · rintro ⟨c, hc⟩
    obtain ⟨tokens, params, sql, -, hsql, -⟩ := compileOn_eq_ok_iff.mp hc
    exact exists_sql_iff.mp ⟨sql, hsql⟩
  · intro h
    obtain ⟨⟨tokens, params⟩, ht⟩ := hfilter
    obtain ⟨sql, hsql⟩ := exists_sql_iff.mpr h
    exact ⟨_, compileOn_eq_ok_iff.mpr ⟨tokens, params, sql, ht, hsql, rfl⟩⟩

/-- **The range queries that have a statement or ask for nothing**: what asks for something needs a
column, and buckets need a width. -/
theorem exists_compile_iff (ht : q.tables ≠ []) : (∃ c, q.compile = .ok c) ↔
    (q.aggregations ≠ [] → q.dataFields ≠ []) ∧ (.histogram ∈ q.aggregations →
      ∃ width ∈ q.interval, width.isFinite = true ∧ width.isPositive = true) := by
  by_cases ha : q.aggregations = []
  · simp [compile, ha]
  · constructor
    · rintro ⟨c, hc⟩
      obtain ⟨field, table, hf, -, hon⟩ := (compile_eq_ok_iff ha).mp hc
      refine ⟨fun _ hnil => ?_, fun hh => ?_⟩
      · rw [hnil] at hf
        cases hf
      · exact exists_compileOn_iff.mp ⟨c, hon⟩ (wants_eq_true_iff.mpr hh)
    · rintro ⟨hfields, hwidth⟩
      obtain ⟨field, _, hf⟩ := List.exists_cons_of_ne_nil (hfields ha)
      obtain ⟨table, _, htable⟩ := List.exists_cons_of_ne_nil ht
      obtain ⟨c, hc⟩ : ∃ c, q.compileOn field table = .ok c :=
        exists_compileOn_iff.mpr fun hh => hwidth (wants_eq_true_iff.mp hh)
      exact ⟨c, (compile_eq_ok_iff ha).mpr
        ⟨field, table, by rw [hf, List.head?_cons], by rw [htable, List.head?_cons], hc⟩⟩

end RangeQuery

/-! ### Admissible descriptors -/

namespace Descriptor

/-- What is asked of a search or a suggestion. -/
structure IsSearch (d : Descriptor) (embedded : Option (List Binary64)) : Prop where
  includeFields : ∀ f ∈ d.includeFields.getD [], Identifier.isSafe f = true
  sortField : ∀ f ∈ d.sortField, Identifier.isSafe f = true
  sortBy : ∀ word ∈ d.sortBy, lowered word = "asc" ∨ lowered word = "desc"
  /-- The column of a vector counts only if there is a vector that is not empty. -/
  vectorField : ∀ f ∈ d.vectorField, ∀ v ∈ d.effectiveVector embedded, v ≠ [] →
    Identifier.isSafe f = true
  value : ∀ j ∈ d.value, j.IsMatchable
  /-- A value that selects rows needs a column to look for it in. -/
  fieldNames : ∀ j ∈ d.value, j.scalars ≠ [] → d.fieldNames ≠ []

/-- What is asked of a term query. Its value is not used, and has to be fit for use all the same. -/
structure IsTerm (d : Descriptor) : Prop where
  value : ∀ j ∈ d.value, j.IsMatchable
  fieldNames : d.fieldNames ≠ []

/-- What is asked of a range query. -/
structure IsRange (d : Descriptor) : Prop where
  value : ∀ j ∈ d.value, j.IsRange
  fieldNames : d.aggregations.getD [] ≠ [] → d.fieldNames ≠ []
  interval : .histogram ∈ d.aggregations.getD [] →
    ∃ width ∈ d.interval, width.isFinite = true ∧ width.isPositive = true

/-- What is asked of a descriptor of its kind. -/
def IsOfKind (d : Descriptor) (embedded : Option (List Binary64)) : Kind → Prop
  | .search | .suggestion => d.IsSearch embedded
  | .term => d.IsTerm
  | .range => d.IsRange

/-- **Admissible descriptors**: they have relations, the names of their relations and columns are
safe, and they are what their kind asks for unless they bring a statement of their own. -/
structure IsAdmissible (d : Descriptor) (embedded : Option (List Binary64)) : Prop where
  tableNames : d.tableNames ≠ []
  safeTables : ∀ t ∈ d.tableNames, Identifier.isSafe t = true
  safeFields : ∀ f ∈ d.fieldNames, Identifier.isSafe f = true
  ofKind : d.statement? = none → d.IsOfKind embedded d.kindOrDefault

variable {d : Descriptor} {embedded : Option (List Binary64)} {defaultSize : Nat}
  {countsRows : Bool}

theorem checkAll_includedFields_iff : Identifier.checkAll d.includedFields = .ok () ↔
    ∀ f ∈ d.includeFields.getD [], Identifier.isSafe f = true := by
  -- all columns stand for none that are named
  have hstar : Identifier.isSafe "*" = true := by decide
  rw [Identifier.checkAll_eq_ok_iff, includedFields]
  cases d.includeFields with
  | none => simp [hstar]
  | some l => cases l <;> simp [hstar]

theorem exists_resolveOrder_iff_lowered : (∃ o, d.resolveOrder = .ok o) ↔
    ∀ word ∈ d.sortBy, lowered word = "asc" ∨ lowered word = "desc" :=
  exists_resolveOrder_iff.trans (forall₂_congr fun _ _ => SortOrder.exists_parse_iff)

theorem exists_resolveVector_iff : (∃ v, d.resolveVector embedded = .ok v) ↔
    ∀ f ∈ d.vectorField, ∀ v ∈ d.effectiveVector embedded, v ≠ [] →
      Identifier.isSafe f = true := by
  unfold resolveVector
  cases d.vectorField with
  | none => simp
  | some f =>
    cases d.effectiveVector embedded with
    | none => simp
    | some v =>
      cases v with
      | nil => simp
      | cons x r =>
        have hcheck : (∃ a, Identifier.check f = .ok a) ↔ Identifier.isSafe f = true :=
          ⟨fun ⟨_, h⟩ => Identifier.check_eq_ok_iff.mp h,
            fun h => ⟨(), Identifier.check_eq_ok_iff.mpr h⟩⟩
        simpa [exists_bind_eq_ok] using hcheck

theorem needsFields_iff {m : Option Match} (h : Match.parse d.value = .ok m) :
    (m.isSome = true → d.fieldNames ≠ []) ↔
      ∀ j ∈ d.value, j.scalars ≠ [] → d.fieldNames ≠ [] := by
  cases hv : d.value with
  | none =>
    rw [hv] at h
    cases h
    simp
  | some j =>
    rw [hv] at h
    simp [Match.isSome_iff_scalars h]

theorem exists_search_iff {tables : List String} :
    (∃ q, d.resolveSearch tables embedded defaultSize = .ok q ∧
      ∃ c, q.compile countsRows = .ok c) ↔ d.IsSearch embedded := by
  constructor
  · rintro ⟨q, hq, hc⟩
    unfold resolveSearch at hq
    obtain ⟨⟨⟩, hinclude, hq⟩ := bind_eq_ok.mp hq
    obtain ⟨⟨⟩, hsort, hq⟩ := bind_eq_ok.mp hq
    obtain ⟨sortBy, horder, hq⟩ := bind_eq_ok.mp hq
    obtain ⟨vector, hvector, hq⟩ := bind_eq_ok.mp hq
    obtain ⟨value, hvalue, hq⟩ := bind_eq_ok.mp hq
    cases hq
    exact {
      includeFields := checkAll_includedFields_iff.mp hinclude
      sortField := checkOptional_eq_ok_iff.mp hsort
      sortBy := exists_resolveOrder_iff_lowered.mp ⟨sortBy, horder⟩
      vectorField := exists_resolveVector_iff.mp ⟨vector, hvector⟩
      value := Match.exists_parse_iff.mp ⟨value, hvalue⟩
      fieldNames := (needsFields_iff hvalue).mp (SearchQuery.exists_compile_iff.mp hc) }
  · intro h
    obtain ⟨sortBy, horder⟩ := exists_resolveOrder_iff_lowered.mpr h.sortBy
    obtain ⟨vector, hvector⟩ := exists_resolveVector_iff.mpr h.vectorField
    obtain ⟨value, hvalue⟩ := Match.exists_parse_iff.mpr h.value
    have hfields := (needsFields_iff hvalue).mpr h.fieldNames
    unfold resolveSearch
    rw [checkAll_includedFields_iff.mpr h.includeFields, checkOptional_eq_ok_iff.mpr h.sortField,
      horder, hvector, hvalue]
    exact ⟨_, rfl, SearchQuery.exists_compile_iff.mpr hfields⟩

theorem exists_term_iff {tables : List String} :
    (∃ q, d.resolveTerm tables = .ok q ∧ ∃ c, q.compile = .ok c) ↔ d.IsTerm := by
  constructor
  · rintro ⟨q, hq, hc⟩
    obtain ⟨value, hvalue, hq⟩ := bind_eq_ok.mp hq
    cases hq
    exact ⟨Match.exists_parse_iff.mp ⟨value, hvalue⟩, TermQuery.exists_compile_iff.mp hc⟩
  · intro h
    obtain ⟨value, hvalue⟩ := Match.exists_parse_iff.mpr h.value
    exact ⟨_, bind_eq_ok.mpr ⟨value, hvalue, rfl⟩, TermQuery.exists_compile_iff.mpr h.fieldNames⟩

theorem exists_range_iff {tables : List String} (ht : tables ≠ []) :
    (∃ q, d.resolveRange tables = .ok q ∧ ∃ c, q.compile = .ok c) ↔ d.IsRange := by
  constructor
  · rintro ⟨q, hq, hc⟩
    obtain ⟨value, hvalue, hq⟩ := bind_eq_ok.mp hq
    cases hq
    obtain ⟨hfields, hwidth⟩ := (RangeQuery.exists_compile_iff ht).mp hc
    exact ⟨Range.exists_parse_iff.mp ⟨value, hvalue⟩, hfields, hwidth⟩
  · intro h
    obtain ⟨value, hvalue⟩ := Range.exists_parse_iff.mpr h.value
    exact ⟨_, bind_eq_ok.mpr ⟨value, hvalue, rfl⟩,
      (RangeQuery.exists_compile_iff ht).mpr ⟨h.fieldNames, h.interval⟩⟩

theorem exists_ofKind_iff (ht : d.tableNames ≠ []) :
    (∃ q, d.resolveKind d.tableNames embedded defaultSize = .ok q ∧
      ∃ c, q.compile countsRows = .ok c) ↔ d.IsOfKind embedded d.kindOrDefault := by
  unfold resolveKind IsOfKind
  cases d.kindOrDefault with
  | search | suggestion => exact exists_map_eq_ok_iff.trans exists_search_iff
  | term => exact exists_map_eq_ok_iff.trans exists_term_iff
  | range => exact exists_map_eq_ok_iff.trans (exists_range_iff ht)

theorem exists_resolve_iff : (∃ r, d.resolve embedded defaultSize = .ok r ∧
    ∃ c, r.query.compile countsRows = .ok c) ↔ d.IsAdmissible embedded := by
  constructor
  · rintro ⟨r, hr, hc⟩
    unfold resolve at hr
    obtain ⟨tables, ht, hr⟩ := bind_eq_ok.mp hr
    obtain ⟨⟨⟩, hf, hr⟩ := bind_eq_ok.mp hr
    obtain ⟨rfl, hne, hsafe⟩ := resolveTables_eq_ok_iff.mp ht
    refine ⟨hne, hsafe, Identifier.checkAll_eq_ok_iff.mp hf, fun hs => ?_⟩
    simp only [hs] at hr
    obtain ⟨q, hq, hr⟩ := bind_eq_ok.mp hr
    cases hr
    exact (exists_ofKind_iff hne).mp ⟨q, hq, hc⟩
  · intro h
    have ht : d.resolveTables = .ok d.tableNames :=
      resolveTables_eq_ok_iff.mpr ⟨rfl, h.tableNames, h.safeTables⟩
    have hf := Identifier.checkAll_eq_ok_iff.mpr h.safeFields
    unfold resolve
    rw [ht, hf]
    -- a statement that is brought along always compiles
    cases hs : d.statement? with
    | some s => exact ⟨_, rfl, _, rfl⟩
    | none =>
      obtain ⟨q, hq, hc⟩ : ∃ q, d.resolveKind d.tableNames embedded defaultSize = .ok q ∧
          ∃ c, q.compile countsRows = .ok c :=
        (exists_ofKind_iff h.tableNames).mpr (h.ofKind hs)
      refine ⟨⟨d.name, q⟩, ?_, hc⟩
      simp only [bind, Except.bind, hq]
      rfl

/-- **A descriptor compiles if and only if it is admissible**, whatever the page size is and whether
or not all rows are counted. -/
theorem compiles_iff (d : Descriptor) (embedded : Option (List Binary64)) (defaultSize : Nat)
    (countsRows : Bool) :
    (∃ r, d.compile embedded defaultSize countsRows = .ok r) ↔ d.IsAdmissible embedded := by
  have hparts : (∃ r, d.compile embedded defaultSize countsRows = .ok r) ↔
      ∃ r, d.resolve embedded defaultSize = .ok r ∧ ∃ c, r.query.compile countsRows = .ok c := by
    unfold compile
    simp only [exists_bind_eq_ok, pure_eq_ok, Except.ok.injEq, exists_eq', and_true]
  rw [hparts]
  exact exists_resolve_iff

end Descriptor

end QueryBatch
