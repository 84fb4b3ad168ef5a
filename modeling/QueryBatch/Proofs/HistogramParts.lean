import QueryBatch.Proofs.Frame
import QueryBatch.Proofs.Resolution

/-! # Histograms with bounds

A range query that asks for buckets and bounds at once has one statement for both: the statement for
the bounds is a relation of its own, whose columns are joined to every bucket. It is put together
from what the query is compiled to if it asks for the bounds alone and for the buckets alone, and so
both read the same rows. A statement written by hand is never put together.

* `Buckets.sql`: the statement for buckets, with room for what is joined to them.
* `RangeQuery.compile_eq_ok_iff`: **what a range query is compiled to**.
* `RangeQuery.compile_congr`: what is asked for counts, in any order and however often.
* `Descriptor.compile_withAggregations`: a descriptor that asks for something else.
* `Descriptor.IsPutTogether`, `Descriptor.isPutTogether_of_compile`: **a histogram with bounds is
  put together from its parts**.
-/

namespace QueryBatch

open Outcome

theorem Text.led_map (separator opening : String) (l : List String) :
    led separator (l.map fun s => opening ++ s) = led (separator ++ opening) l := by
  induction l with
  | nil => rfl
  | cons s r ih =>
    rw [List.map_cons, led, led, ih]
    simp only [String.append_assoc]

/-! ### Buckets -/

/-- **Buckets** of a column of a relation, over the rows that meet a condition. -/
structure Buckets where
  field : String
  table : String
  width : Binary64
  condition : Option String

namespace Buckets

/-- The statement for the buckets, with more columns and another relation beside their own. -/
def sql (b : Buckets) (columns relation : String) : String :=
  "SELECT " ++ bucketNumber b.field b.width ++ " * " ++ widthLiteral b.width ++ " AS " ++
    Column.bucketKey ++ ", COUNT(*) AS " ++ Column.bucketCount ++ columns ++
    " FROM " ++ quotedTable b.table ++ relation ++ whereClause b.condition ++
    " GROUP BY " ++ bucketNumber b.field b.width ++ columns ++
    " ORDER BY " ++ Column.bucketKey

/-- The statement for bounds of the same column over the same rows. -/
def boundsSql (b : Buckets) (selected : String) : String :=
  "SELECT " ++ selected ++ " FROM " ++ quotedTable b.table ++ whereClause b.condition

theorem histogramStatement_none (b : Buckets) :
    histogramStatement b.field b.table b.width b.condition none = b.sql "" "" := by
  have hcount : ", COUNT(*) AS " = ", " ++ "COUNT(*) AS " := by decide
  unfold histogramStatement sql
  rw [hcount]
  simp only [Option.map_none, Option.getD_none, List.map_nil, List.append_nil, Option.isSome_none,
    Bool.false_eq_true, if_false, Text.joined_cons_cons, Text.joined_singleton]
  simp only [String.empty_append, String.append_empty, String.append_assoc]

theorem histogramStatement_some (b : Buckets) (bounds : BoundsStatement) :
    histogramStatement b.field b.table b.width b.condition (some bounds) =
      "WITH " ++ Column.boundsRelation ++ " AS (" ++ bounds.sql ++ ") " ++
        b.sql (Text.led ", o." bounds.columns) (", " ++ Column.boundsRelation ++ " o") := by
  have hcount : ", COUNT(*) AS " = ", " ++ "COUNT(*) AS " := by decide
  have hcolumn : ", o." = ", " ++ "o." := by decide
  unfold histogramStatement sql
  rw [hcount, hcolumn, ← Text.led_map]
  simp only [Option.map_some, Option.getD_some, Option.isSome_some, if_true, List.cons_append,
    List.nil_append, Text.joined_cons, Text.led]
  simp only [String.append_assoc]

/-- **A histogram with bounds, put together**: `bounded` has the statement for the bounds in front,
and in the statement for the buckets the columns of the bounds and their relation. All three have
the same parameters. -/
structure Joins (b : Buckets) (shape : RangeShape) (bounds buckets bounded : Statement) : Prop where
  bounds_sql : ∃ selected, bounds.sql = b.boundsSql selected
  buckets_sql : buckets.sql = b.sql "" ""
  bounded_sql : bounded.sql = "WITH " ++ Column.boundsRelation ++ " AS (" ++ bounds.sql ++ ") " ++
    b.sql (Text.led ", o." (shape.minField.toList ++ shape.maxField.toList))
      (", " ++ Column.boundsRelation ++ " o")
  bounds_params : bounds.params = bounded.params
  buckets_params : buckets.params = bounded.params

end Buckets

/-! ### Range queries -/

namespace RangeQuery

variable {q : RangeQuery} {c : Compiled}

/-- What is asked for counts, in any order and however often. -/
theorem compile_congr (q : RangeQuery) {l l' : List Aggregation} (h : ∀ a, a ∈ l ↔ a ∈ l') :
    compile { q with aggregations := l } = compile { q with aggregations := l' } := by
  -- the list is read in two ways only: whether it is empty, and whether it has a kind
  have hempty : l.isEmpty = l'.isEmpty := by
    rw [Bool.eq_iff_iff, List.isEmpty_iff, List.isEmpty_iff, List.eq_nil_iff_forall_not_mem,
      List.eq_nil_iff_forall_not_mem]
    exact forall_congr' fun a => not_congr (h a)
  have hwants : ∀ a, l.contains a = l'.contains a := fun a => by
    rw [Bool.eq_iff_iff, List.contains_iff_mem, List.contains_iff_mem, h]
  have hon : ∀ field table, compileOn { q with aggregations := l } field table =
      compileOn { q with aggregations := l' } field table := by
    intro field table
    simp only [compileOn, bounds?, RangeQuery.sql, wants, width?, hwants]
    rfl
  unfold compile
  simp only [hempty, hon]

/-- The statement for the bounds that are asked for, if there are any. -/
def boundsOn (q : RangeQuery) (field table : String) (condition : Option String) :
    Option BoundsStatement :=
  if q.wantsBounds then some (q.boundsAround field table condition) else none

theorem bounds?_eq_boundsOn (q : RangeQuery) (field table : String) (condition : Option String) :
    q.bounds? field table condition = .ok (q.boundsOn field table condition) :=
  q.bounds?_eq field table condition

/-- The shape of what is asked for about a column. -/
def shapeOn (q : RangeQuery) (field : String) : RangeShape where
  dataField := some field
  minField := if q.wants .min then some Column.least else none
  maxField := if q.wants .max then some Column.greatest else none
  histogram := q.wants .histogram
  isEmpty := false

theorem bind_minField_boundsOn (field table : String) (condition : Option String) :
    (q.boundsOn field table condition).bind BoundsStatement.minField =
      (q.shapeOn field).minField := by
  cases h : q.wants .min <;> simp [boundsOn, wantsBounds, boundsAround, shapeOn, h]

theorem bind_maxField_boundsOn (field table : String) (condition : Option String) :
    (q.boundsOn field table condition).bind BoundsStatement.maxField =
      (q.shapeOn field).maxField := by
  cases h : q.wants .max <;> simp [boundsOn, wantsBounds, boundsAround, shapeOn, h]

theorem compileOn_eq_ok_iff {field table : String} : q.compileOn field table = .ok c ↔
    ∃ tokens params sql,
      Filter.tokens (q.value.map .range) [field] .or .empty = .ok (tokens, params) ∧
      q.sql field table (mergeConditions (conditionOf tokens) q.condition)
        (q.boundsOn field table (mergeConditions (conditionOf tokens) q.condition)) = .ok sql ∧
      c = ⟨some ⟨sql, params.bound⟩, .range (q.shapeOn field)⟩ := by
  unfold compileOn
  simp only [bind_eq_ok, bounds?_eq_boundsOn, Except.ok.injEq, Prod.exists, exists_eq_left',
    bind_minField_boundsOn, bind_maxField_boundsOn]
  constructor
  · rintro ⟨tokens, params, htokens, sql, hsql, hc⟩
    cases hc
    exact ⟨tokens, params, sql, htokens, hsql, rfl⟩
  · rintro ⟨tokens, params, sql, htokens, hsql, rfl⟩
    exact ⟨tokens, params, htokens, sql, hsql, rfl⟩

/-- **What a range query is compiled to** if it asks for something: a statement about its first
column and its first relation. -/
theorem compile_eq_ok_iff (ha : q.aggregations ≠ []) : q.compile = .ok c ↔
    ∃ field table, q.dataFields.head? = some field ∧ q.tables.head? = some table ∧
      q.compileOn field table = .ok c := by
  have hempty : q.aggregations.isEmpty = false := by simpa using ha
  unfold compile
  rw [hempty]
  cases q.dataFields with
  | nil => simp
  | cons field others => cases q.tables <;> simp

theorem wants_eq_true_iff {a : Aggregation} : q.wants a = true ↔ a ∈ q.aggregations := by
  rw [wants, List.contains_iff_mem]

theorem sql_eq_ok_iff_of_wants {field table sql : String} {condition : Option String}
    {bounds : Option BoundsStatement} (hh : q.wants .histogram = true) :
    q.sql field table condition bounds = .ok sql ↔ ∃ width, q.width? = some width ∧
      sql = histogramStatement field table width condition bounds := by
  rw [RangeQuery.sql, if_pos hh]
  cases q.width? <;> simp [eq_comm]

def withoutBuckets (q : RangeQuery) : RangeQuery :=
  { q with aggregations := q.aggregations.filter (· ≠ .histogram) }

/-- The query with the buckets alone. -/
def bucketsOnly (q : RangeQuery) : RangeQuery := { q with aggregations := [.histogram] }

theorem wants_withoutBuckets (q : RangeQuery) {a : Aggregation} :
    q.withoutBuckets.wants a = (q.wants a && a ≠ .histogram) := by
  rw [Bool.eq_iff_iff, wants_eq_true_iff]
  simp [withoutBuckets, wants]

theorem boundsOn_withoutBuckets (q : RangeQuery) (field table : String)
    (condition : Option String) :
    q.withoutBuckets.boundsOn field table condition = q.boundsOn field table condition := by
  simp [boundsOn, wantsBounds, boundsAround, boundsOpening, boundColumns, wants_withoutBuckets]

theorem shapeOn_withoutBuckets (q : RangeQuery) (field : String) :
    q.withoutBuckets.shapeOn field = { q.shapeOn field with histogram := false } := by
  simp [shapeOn, wants_withoutBuckets]

theorem wants_bucketsOnly (q : RangeQuery) (a : Aggregation) :
    q.bucketsOnly.wants a = decide (a = .histogram) := by
  rw [Bool.eq_iff_iff, wants_eq_true_iff]
  simp [bucketsOnly]

theorem boundsOn_bucketsOnly (q : RangeQuery) (field table : String) (condition : Option String) :
    q.bucketsOnly.boundsOn field table condition = none := by
  simp [boundsOn, wantsBounds, wants_bucketsOnly]

theorem shapeOn_bucketsOnly (h : q.wants .histogram = true) (field : String) :
    q.bucketsOnly.shapeOn field = { q.shapeOn field with minField := none, maxField := none } := by
  simp [shapeOn, wants_bucketsOnly, h]

theorem sql_bucketsOnly {field table : String} {condition : Option String} {width : Binary64}
    (hw : q.width? = some width) :
    q.bucketsOnly.sql field table condition (q.bucketsOnly.boundsOn field table condition) =
      .ok ((⟨field, table, width, condition⟩ : Buckets).sql "" "") := by
  have hwants : q.bucketsOnly.wants .histogram = true := by simp [wants_bucketsOnly]
  have hwidth : q.bucketsOnly.width? = some width := hw
  rw [boundsOn_bucketsOnly, RangeQuery.sql, if_pos hwants, hwidth]
  exact congrArg Except.ok (Buckets.histogramStatement_none ⟨field, table, width, condition⟩)

theorem sql_withoutBuckets {field table : String} {condition : Option String}
    {bounds : BoundsStatement} (hb : q.boundsOn field table condition = some bounds) :
    q.withoutBuckets.sql field table condition (q.withoutBuckets.boundsOn field table condition) =
      .ok bounds.sql := by
  have hwants : ¬ q.withoutBuckets.wants .histogram = true := by simp [wants_withoutBuckets]
  rw [boundsOn_withoutBuckets, RangeQuery.sql, if_neg hwants, hb]
  rfl

theorem joins_boundsAround (q : RangeQuery) (b : Buckets) (params : List Scalar) :
    b.Joins (q.shapeOn b.field) ⟨(q.boundsAround b.field b.table b.condition).sql, params⟩
      ⟨b.sql "" "", params⟩
      ⟨histogramStatement b.field b.table b.width b.condition
        (some (q.boundsAround b.field b.table b.condition)), params⟩ where
  bounds_sql := ⟨Text.joined ", " (q.boundColumns b.field), rfl⟩
  buckets_sql := rfl
  bounded_sql := b.histogramStatement_some (q.boundsAround b.field b.table b.condition)
  bounds_params := rfl
  buckets_params := rfl

/-- **A query for buckets and bounds is put together** from what it is compiled to without the one
and without the other. -/
theorem exists_joins_of_compile (hh : q.wants .histogram = true) (hb : q.wantsBounds = true)
    (h : q.compile = .ok c) : ∃ b : Buckets, q.dataFields.head? = some b.field ∧
      q.tables.head? = some b.table ∧ q.interval = some b.width ∧ ∃ bounds buckets bounded,
      c = ⟨some bounded, .range (q.shapeOn b.field)⟩ ∧
      q.withoutBuckets.compile =
        .ok ⟨some bounds, .range { q.shapeOn b.field with histogram := false }⟩ ∧
      q.bucketsOnly.compile =
        .ok ⟨some buckets, .range { q.shapeOn b.field with minField := none, maxField := none }⟩ ∧
      b.Joins (q.shapeOn b.field) bounds buckets bounded := by
  have hne : q.aggregations ≠ [] := List.ne_nil_of_mem (wants_eq_true_iff.mp hh)
  have hne' : q.withoutBuckets.aggregations ≠ [] := by
    rcases Bool.or_eq_true_iff.mp hb with hb | hb
    · exact List.ne_nil_of_mem (wants_eq_true_iff.mp (by rw [wants_withoutBuckets, hb]; rfl))
    · exact List.ne_nil_of_mem (wants_eq_true_iff.mp (by rw [wants_withoutBuckets, hb]; rfl))
  obtain ⟨field, table, hf, ht, hon⟩ := (compile_eq_ok_iff hne).mp h
  obtain ⟨tokens, params, sql, htokens, hsql, rfl⟩ := compileOn_eq_ok_iff.mp hon
  obtain ⟨width, hw, rfl⟩ := (sql_eq_ok_iff_of_wants hh).mp hsql
  rw [boundsOn, if_pos hb]
  let b : Buckets := ⟨field, table, width, mergeConditions (conditionOf tokens) q.condition⟩
  have hbounds : q.withoutBuckets.compile = .ok
      ⟨some ⟨(q.boundsAround field table b.condition).sql, params.bound⟩,
        .range (q.withoutBuckets.shapeOn field)⟩ :=
    (compile_eq_ok_iff hne').mpr ⟨field, table, hf, ht, compileOn_eq_ok_iff.mpr
      ⟨tokens, params, _, htokens, sql_withoutBuckets (if_pos hb), rfl⟩⟩
  have hbuckets : q.bucketsOnly.compile = .ok
      ⟨some ⟨b.sql "" "", params.bound⟩, .range (q.bucketsOnly.shapeOn field)⟩ :=
    (compile_eq_ok_iff (List.cons_ne_nil _ _)).mpr ⟨field, table, hf, ht,
      compileOn_eq_ok_iff.mpr ⟨tokens, params, _, htokens, sql_bucketsOnly hw, rfl⟩⟩
  rw [shapeOn_withoutBuckets] at hbounds
  rw [shapeOn_bucketsOnly hh] at hbuckets
  have hinterval : q.interval = some width := (Option.filter_eq_some_iff.mp hw).1
  exact ⟨b, hf, ht, hinterval, _, _, _, rfl, hbounds, hbuckets,
    q.joins_boundsAround b params.bound⟩

end RangeQuery

/-! ### Descriptors -/

/-- The query that asks for something else, if it is a range query. -/
def Query.withAggregations (l : List Aggregation) : Query → Query
  | .written q => .written q
  | .search q => .search q
  | .term q => .term q
  | .range q => .range { q with aggregations := l }

namespace Descriptor

variable {d : Descriptor} {embedded : Option (List Binary64)} {defaultSize : Nat}
  {countsRows : Bool}

/-- The descriptor that asks for something else. -/
def withAggregations (d : Descriptor) (l : List Aggregation) : Descriptor :=
  { d with aggregations := some l }

theorem withAggregations_self {l : List Aggregation} (h : d.aggregations = some l) :
    d.withAggregations l = d := by
  rw [withAggregations, ← h]

theorem resolveKind_withAggregations (d : Descriptor) (l : List Aggregation)
    (tables : List String) :
    (d.withAggregations l).resolveKind tables embedded defaultSize =
      (d.resolveKind tables embedded defaultSize).map (Query.withAggregations l) := by
  have hkind : (d.withAggregations l).kindOrDefault = d.kindOrDefault := rfl
  have hsearch : (d.withAggregations l).resolveSearch tables embedded defaultSize =
      d.resolveSearch tables embedded defaultSize := rfl
  have hterm : (d.withAggregations l).resolveTerm tables = d.resolveTerm tables := rfl
  have hrange : (d.withAggregations l).resolveRange tables =
      (d.resolveRange tables).map fun q => { q with aggregations := l } := by
    have hvalue : (d.withAggregations l).value = d.value := rfl
    unfold resolveRange
    rw [hvalue]
    cases Range.parse d.value <;> rfl
  unfold resolveKind
  rw [hkind, hsearch, hterm, hrange]
  cases d.kindOrDefault with
  | search | suggestion => cases d.resolveSearch tables embedded defaultSize <;> rfl
  | term => cases d.resolveTerm tables <;> rfl
  | range => cases d.resolveRange tables <;> rfl

theorem resolve_withAggregations (d : Descriptor) (l : List Aggregation) :
    (d.withAggregations l).resolve embedded defaultSize =
      (d.resolve embedded defaultSize).map fun r => ⟨r.name, r.query.withAggregations l⟩ := by
  have htables : (d.withAggregations l).resolveTables = d.resolveTables := rfl
  have hfields : (d.withAggregations l).fieldNames = d.fieldNames := rfl
  have hstatement : (d.withAggregations l).statement? = d.statement? := rfl
  unfold resolve
  rw [htables, hfields, hstatement]
  cases d.resolveTables with
  | error e => rfl
  | ok tables =>
    cases Identifier.checkAll d.fieldNames with
    | error e => rfl
    | ok =>
      cases d.statement? with
      | some s => rfl
      | none =>
        simp only [resolveKind_withAggregations, bind, Except.bind]
        cases d.resolveKind tables embedded defaultSize <;> rfl

theorem compile_withAggregations {l : List Aggregation} {q : Query}
    (h : d.resolve embedded defaultSize = .ok ⟨d.name, q⟩) :
    (d.withAggregations l).compile embedded defaultSize countsRows =
      ((q.withAggregations l).compile countsRows).map fun c => (d.name, c) := by
  unfold compile
  rw [resolve_withAggregations, h]
  simp only [Except.map, bind, Except.bind]
  cases (q.withAggregations l).compile countsRows <;> rfl

/-- **A histogram with bounds, put together** from what a descriptor is compiled to without buckets,
and without bounds. The buckets are those of its first column and its first relation, and the
columns of the bounds are those that are asked for. -/
structure PutTogether (d : Descriptor) (embedded : Option (List Binary64)) (defaultSize : Nat)
    (countsRows : Bool) (b : Buckets) (shape : RangeShape) (bounds buckets bounded : Statement) :
    Prop where
  field : d.fieldNames.head? = some b.field
  table : d.tableNames.head? = some b.table
  width : d.interval = some b.width
  compiled : d.compile embedded defaultSize countsRows =
    .ok (d.name, ⟨some bounded, .range shape⟩)
  withoutBuckets : (d.withAggregations ((d.aggregations.getD []).filter (· ≠ .histogram))).compile
    embedded defaultSize countsRows =
      .ok (d.name, ⟨some bounds, .range { shape with histogram := false }⟩)
  bucketsOnly : (d.withAggregations [.histogram]).compile embedded defaultSize countsRows =
    .ok (d.name, ⟨some buckets, .range { shape with minField := none, maxField := none }⟩)
  minField : shape.minField = if .min ∈ d.aggregations.getD [] then some Column.least else none
  maxField : shape.maxField = if .max ∈ d.aggregations.getD [] then some Column.greatest else none
  joins : b.Joins shape bounds buckets bounded

/-- A descriptor is compiled to a histogram with bounds that is put together. -/
def IsPutTogether (d : Descriptor) (embedded : Option (List Binary64)) (defaultSize : Nat)
    (countsRows : Bool) : Prop :=
  ∃ b shape bounds buckets bounded,
    d.PutTogether embedded defaultSize countsRows b shape bounds buckets bounded

theorem exists_range_of_compile {r : String × Compiled} (hk : d.kindOrDefault = .range)
    (hs : d.statement? = none) (h : d.compile embedded defaultSize countsRows = .ok r) :
    r.1 = d.name ∧ ∃ value,
      let q : RangeQuery := {
        tables := d.tableNames, dataFields := d.fieldNames, value
        aggregations := d.aggregations.getD [], interval := d.interval, condition := d.condition }
      d.resolve embedded defaultSize = .ok ⟨d.name, .range q⟩ ∧ q.compile = .ok r.2 := by
  obtain ⟨hname, q, hr, hq, hc⟩ := compile_eq_ok h
  cases hq with
  | written hs' =>
    rw [hs] at hs'
    cases hs'
  | term _ hk' =>
    rw [hk] at hk'
    cases hk'
  | search _ hk' =>
    rw [hk] at hk'
    rcases hk' with hk' | hk' <;> cases hk'
  | range => exact ⟨hname, _, hr, hc⟩

/-- **A histogram with bounds is put together from its parts**, and what is asked for counts in any
order and however often. That is so of every range query that is not written by hand. -/
theorem isPutTogether_of_compile {l : List Aggregation} {r : String × Compiled}
    (hk : d.kindOrDefault = .range) (hs : d.statement? = none) (hl : d.aggregations = some l)
    (hh : .histogram ∈ l) (hb : .min ∈ l ∨ .max ∈ l)
    (h : d.compile embedded defaultSize countsRows = .ok r) :
    d.IsPutTogether embedded defaultSize countsRows ∧
    ∀ l' : List Aggregation, (∀ a, a ∈ l' ↔ a ∈ l) →
      (d.withAggregations l').compile embedded defaultSize countsRows =
        d.compile embedded defaultSize countsRows := by
  obtain ⟨hname, value, hr, hc⟩ := exists_range_of_compile hk hs h
  rw [hl, Option.getD_some] at hr hc
  generalize hq : ({
    tables := d.tableNames, dataFields := d.fieldNames, value, aggregations := l
    interval := d.interval, condition := d.condition } : RangeQuery) = q at hr hc
  have hcompile : ∀ l', (d.withAggregations l').compile embedded defaultSize countsRows =
      (RangeQuery.compile { q with aggregations := l' }).map fun c => (d.name, c) :=
    fun l' => compile_withAggregations hr
  constructor
  · have hwants : ∀ a, q.wants a = true ↔ a ∈ l := fun a => by
      rw [RangeQuery.wants_eq_true_iff, ← hq]
    have hbounds : q.wantsBounds = true := by
      rwa [RangeQuery.wantsBounds, Bool.or_eq_true_iff, hwants, hwants]
    obtain ⟨b, hfield, htable, hwidth, bounds, buckets, bounded, hbounded, hm, hb', hjoins⟩ :=
      RangeQuery.exists_joins_of_compile ((hwants .histogram).mpr hh) hbounds hc
    refine ⟨b, q.shapeOn b.field, bounds, buckets, bounded, ?_⟩
    subst hq
    refine ⟨hfield, htable, hwidth, ?_, ?_, ?_, ?_, ?_, hjoins⟩
    · rw [h, ← hname, ← hbounded]
    · rw [hl, hcompile, Option.getD_some]
      exact map_eq_ok.mpr ⟨_, hm, rfl⟩
    · rw [hcompile]
      exact map_eq_ok.mpr ⟨_, hb', rfl⟩
    · simp only [RangeQuery.shapeOn, hwants, hl, Option.getD_some]
    · simp only [RangeQuery.shapeOn, hwants, hl, Option.getD_some]
  · intro l' hl'
    have hself := withAggregations_self hl
    rw [hcompile, q.compile_congr hl', ← hcompile, hself]

/-- Books by decade, with the greatest and the least year. -/
def decades : Descriptor :=
  { (default : Descriptor) with
    id := some "decades", tables := some (.one "books"), kind := some .range
    dataFields := some (.one "year"), aggregations := some [.max, .histogram, .min]
    interval := some (.ofInt 10), value := some (.object [("start", .string "1980")])
    condition := some "lang = 'en'" }

def decadesSql : Statement :=
  ⟨"WITH OverallStats AS (SELECT MIN(year) AS rs__overall_min_year, " ++
    "MAX(year) AS rs__overall_max_year FROM \"books\" WHERE (year > $1) AND (lang = 'en')) " ++
    "SELECT FLOOR(year / 10.0) * 10.0 AS rs__key, COUNT(*) AS rs__doc_count, " ++
    "o.rs__overall_min_year, o.rs__overall_max_year FROM \"books\", OverallStats o " ++
    "WHERE (year > $1) AND (lang = 'en') GROUP BY FLOOR(year / 10.0), " ++
    "o.rs__overall_min_year, o.rs__overall_max_year ORDER BY rs__key", [.text "1980"]⟩

/-- The least year stands first, in whatever order the two are asked for. -/
theorem isPutTogether_decades :
    decades.IsPutTogether none 10 false ∧
    decades.compile none 10 false = .ok ("decades", ⟨some decadesSql,
      .range ⟨some "year", some Column.least, some Column.greatest, true, false⟩⟩) ∧
    (decades.withAggregations [.min, .max, .histogram, .min]).compile none 10 false =
      decades.compile none 10 false := by
  have h : decades.compile none 10 false = .ok ("decades", ⟨some decadesSql,
      .range ⟨some "year", some Column.least, some Column.greatest, true, false⟩⟩) := by
    decide +kernel
  obtain ⟨hparts, hset⟩ :=
    isPutTogether_of_compile rfl (by decide) rfl (by decide) (by decide) h
  exact ⟨hparts, h, hset _ fun a => by cases a <;> decide⟩

/-- The same with a statement written by hand. -/
def writtenDecades : Descriptor :=
  { decades with
    handWritten :=
      some ⟨some "SELECT COUNT(*) AS rs__doc_count FROM \"books\" GROUP BY year"⟩ }

/-- A statement written by hand stands for itself, whatever is asked for. -/
theorem not_isPutTogether_writtenDecades :
    writtenDecades.kindOrDefault = .range ∧
    writtenDecades.aggregations = some [.max, .histogram, .min] ∧
    (∃ s shape, writtenDecades.compile none 10 false = .ok ("decades", ⟨some s, shape⟩) ∧
      (writtenDecades.withAggregations [.max, .min]).compile none 10 false =
        .ok ("decades", ⟨some s, shape⟩) ∧
      (writtenDecades.withAggregations [.histogram]).compile none 10 false =
        .ok ("decades", ⟨some s, shape⟩) ∧
      ∀ rest, s.sql ≠ "WITH OverallStats AS (" ++ s.sql ++ ") " ++ rest) ∧
    ¬ writtenDecades.IsPutTogether none 10 false := by
  have h : writtenDecades.compile none 10 false = .ok ("decades", ⟨some
      ⟨"SELECT COUNT(*) AS rs__doc_count FROM \"books\" GROUP BY year", []⟩,
      .written .range (some "year")⟩) := by
    decide +kernel
  refine ⟨rfl, rfl, ⟨_, _, h, by decide +kernel, by decide +kernel, fun rest heq => ?_⟩, ?_⟩
  · have hpos : 0 < ") ".length := by decide
    have hlength := congrArg String.length heq
    simp only [String.length_append] at hlength
    omega
  · rintro ⟨b, shape, bounds, buckets, bounded, hparts⟩
    have hc := hparts.compiled
    rw [h] at hc
    cases hc

end Descriptor

end QueryBatch
