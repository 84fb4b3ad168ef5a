import QueryBatch.Proofs.HistogramParts
import QueryBatch.Response.Envelope

/-! # The parts of a range answer

The answer to a range query is one object with up to three parts: the least value under `min`, the
greatest under `max`, and the buckets under the name of the data column. The three are put in one
after the other, so that no part is lost as long as the column has a name of its own. The buckets of
a column that is called `min` or `max` take the place of the bound of that name.

* `get?_rangeAggregations`: **what stands under each key** of an answer.
* `RangeAnswer.IsComplete`: an answer with all parts that are asked for.
* `RangeAnswer.HidesBound`: the buckets take the place of a bound.
* `RangeAnswer.isComplete_iff`: **an answer is complete unless its buckets hide a bound**.
* `Descriptor.isComplete_of_compile`: so is the answer to a descriptor, whatever it asks for.
-/

namespace QueryBatch

/-! ### What stands under a key -/

theorem get?_insertBound (k name : String) (column : Option String) (rows : List Row)
    (into : Keyed Json) :
    Keyed.get? k (insertBound name column rows into) =
      (if k = name then column.map fun c => boundOf c rows else none).or (Keyed.get? k into) := by
  cases column with
  | none => simp [insertBound]
  | some c =>
    rw [insertBound, Keyed.get?_insert]
    by_cases h : k = name
    · simp [h]
    · simp [h]

/-- **What stands under a key**: the buckets if the key is the name of the column, else the bound of
that name, if it is asked for. -/
theorem get?_rangeAggregations (k dataField : String) (minField maxField : Option String)
    (histogram : Bool) (rows : List Row) :
    Keyed.get? k (rangeAggregations dataField minField maxField histogram rows) =
      (if histogram = true ∧ k = dataField then
        some (encodeBuckets (rows.map fun row =>
          row.bucket Column.bucketKey Column.bucketCount)) else none).or
      ((if k = "max" then maxField.map fun c => boundOf c rows else none).or
        (if k = "min" then minField.map fun c => boundOf c rows else none)) := by
  unfold rangeAggregations
  cases histogram with
  | false => simp [get?_insertBound]
  | true =>
    by_cases h : k = dataField
    · simp [h]
    · simp [get?_insertBound, h]

theorem boundOf_eq (column : String) (rows : List Row) :
    boundOf column rows =
      .object [("value", (rows.head?.bind (Keyed.get? column)).getD .null)] := by
  cases rows with
  | nil => rfl
  | cons row rest => rfl

namespace RangeAnswer

/-! ### Complete answers -/

/-- The value of a row as a bucket. -/
def bucketOf (row : Row) : Json :=
  .object [("doc_count", .ofNat (Count.parse (Keyed.get? Column.bucketCount row))),
    ("key", (Keyed.get? Column.bucketKey row).getD .null)]

variable {dataField : String} {minField maxField : Option String} {histogram : Bool}
  {rows : List Row}

/-- **A complete answer** has each part that is asked for: a bound has the value of its column in
the first row, or null, and the buckets are the rows in their order. -/
structure IsComplete (answer : Keyed Json) (dataField : String) (minField maxField : Option String)
    (histogram : Bool) (rows : List Row) : Prop where
  min : ∀ c ∈ minField, Keyed.get? "min" answer =
    some (.object [("value", (rows.head?.bind (Keyed.get? c)).getD .null)])
  max : ∀ c ∈ maxField, Keyed.get? "max" answer =
    some (.object [("value", (rows.head?.bind (Keyed.get? c)).getD .null)])
  buckets : histogram = true → Keyed.get? dataField answer =
    some (.object [("buckets", .array (rows.map bucketOf))])

/-- **The buckets take the place of a bound**, because the column is called like it. -/
def HidesBound (dataField : String) (minField maxField : Option String) (histogram : Bool) : Prop :=
  histogram = true ∧
    (dataField = "min" ∧ minField.isSome = true ∨ dataField = "max" ∧ maxField.isSome = true)

/-- Buckets are never lost, since they are put in last. -/
theorem get?_dataField (h : histogram = true) :
    Keyed.get? dataField (rangeAggregations dataField minField maxField histogram rows) =
      some (.object [("buckets", .array (rows.map bucketOf))]) := by
  have hbuckets : encodeBuckets (rows.map fun row =>
      row.bucket Column.bucketKey Column.bucketCount) =
      .object [("buckets", .array (rows.map bucketOf))] := by
    rw [encodeBuckets, List.map_map]
    rfl
  rw [get?_rangeAggregations, if_pos ⟨h, rfl⟩, Option.some_or, hbuckets]

theorem get?_min {c : String} (hc : minField = some c)
    (h : ¬ (histogram = true ∧ dataField = "min")) :
    Keyed.get? "min" (rangeAggregations dataField minField maxField histogram rows) =
      some (.object [("value", (rows.head?.bind (Keyed.get? c)).getD .null)]) := by
  have hother : ¬ (histogram = true ∧ "min" = dataField) := fun hk => h ⟨hk.1, hk.2.symm⟩
  rw [get?_rangeAggregations, if_neg hother, ← boundOf_eq]
  simp [hc]

theorem get?_max {c : String} (hc : maxField = some c)
    (h : ¬ (histogram = true ∧ dataField = "max")) :
    Keyed.get? "max" (rangeAggregations dataField minField maxField histogram rows) =
      some (.object [("value", (rows.head?.bind (Keyed.get? c)).getD .null)]) := by
  have hother : ¬ (histogram = true ∧ "max" = dataField) := fun hk => h ⟨hk.1, hk.2.symm⟩
  rw [get?_rangeAggregations, if_neg hother, ← boundOf_eq]
  simp [hc]

theorem isComplete_of_not_hidesBound (h : ¬ HidesBound dataField minField maxField histogram) :
    IsComplete (rangeAggregations dataField minField maxField histogram rows) dataField minField
      maxField histogram rows where
  min := by
    intro c hc
    have hsome : minField.isSome = true := Option.isSome_iff_exists.mpr ⟨c, hc⟩
    exact get?_min hc fun hk => h ⟨hk.1, .inl ⟨hk.2, hsome⟩⟩
  max := by
    intro c hc
    have hsome : maxField.isSome = true := Option.isSome_iff_exists.mpr ⟨c, hc⟩
    exact get?_max hc fun hk => h ⟨hk.1, .inr ⟨hk.2, hsome⟩⟩
  buckets := get?_dataField

/-- A key holds one part: where the buckets are there is no bound. -/
theorem not_isComplete_of_hidesBound (h : HidesBound dataField minField maxField histogram) :
    ¬ IsComplete (rangeAggregations dataField minField maxField histogram rows) dataField minField
      maxField histogram rows := by
  intro hcomplete
  obtain ⟨hh, ⟨rfl, hsome⟩ | ⟨rfl, hsome⟩⟩ := h
  · obtain ⟨c, hc⟩ := Option.isSome_iff_exists.mp hsome
    have hbuckets := hcomplete.buckets hh
    rw [hcomplete.min c hc] at hbuckets
    simp at hbuckets
  · obtain ⟨c, hc⟩ := Option.isSome_iff_exists.mp hsome
    have hbuckets := hcomplete.buckets hh
    rw [hcomplete.max c hc] at hbuckets
    simp at hbuckets

/-- **An answer is complete unless its buckets hide a bound**: whatever the rows, the column, the
aliases of the bounds and the flag for the buckets, all parts that are asked for are there together
if and only if the column is not called like a bound that is asked for beside the buckets. -/
theorem isComplete_iff (dataField : String) (minField maxField : Option String) (histogram : Bool)
    (rows : List Row) :
    IsComplete (rangeAggregations dataField minField maxField histogram rows) dataField minField
        maxField histogram rows ↔
      ¬ HidesBound dataField minField maxField histogram :=
  ⟨fun h hhides => not_isComplete_of_hidesBound hhides h, isComplete_of_not_hidesBound⟩

/-- A row of a histogram over a column `min` with the least value beside the bucket. -/
def rowOfMin : Row := [("rs__doc_count", .ofNat 3), ("rs__key", .ofNat 0),
  ("rs__overall_min_year", .ofNat 4)]

/-- A column may be called `min`, and then its least value is not in the answer. -/
theorem not_isComplete_rowOfMin :
    Identifier.isSafe "min" = true ∧
    rangeAggregations "min" (some Column.least) none true [rowOfMin] =
      [("min", .object [("buckets", .array
        [.object [("doc_count", .ofNat 3), ("key", .ofNat 0)]])])] ∧
    ¬ IsComplete (rangeAggregations "min" (some Column.least) none true [rowOfMin]) "min"
      (some Column.least) none true [rowOfMin] := by
  refine ⟨by decide, by decide +kernel, ?_⟩
  exact not_isComplete_of_hidesBound ⟨rfl, .inl ⟨rfl, rfl⟩⟩

end RangeAnswer

/-! ### The answer to a descriptor -/

theorem RangeQuery.wants_eq_decide {q : RangeQuery} {a : Aggregation} :
    q.wants a = decide (a ∈ q.aggregations) := by
  rw [Bool.eq_iff_iff, wants_eq_true_iff, decide_eq_true_iff]

/-- **The answer to a range descriptor** that asks for something is complete unless its column is
called like a bound that it asks for beside buckets. -/
theorem Descriptor.isComplete_of_compile {d : Descriptor} {embedded : Option (List Binary64)}
    {defaultSize : Nat} {countsRows : Bool} {l : List Aggregation} {r : String × Compiled}
    (hk : d.kindOrDefault = .range) (hs : d.statement? = none) (hl : d.aggregations = some l)
    (hne : l ≠ []) (h : d.compile embedded defaultSize countsRows = .ok r) (took : Json)
    (rows : List Row) :
    ∃ field answer, d.fieldNames.head? = some field ∧
      r.2.shape.entry took rows = aggregationEntry took answer ∧
      (RangeAnswer.IsComplete answer field (if .min ∈ l then some Column.least else none)
          (if .max ∈ l then some Column.greatest else none) (decide (.histogram ∈ l)) rows ↔
        ¬ (.histogram ∈ l ∧ (field = "min" ∧ .min ∈ l ∨ field = "max" ∧ .max ∈ l))) := by
  obtain ⟨-, value, -, hc⟩ := exists_range_of_compile hk hs h
  rw [hl, Option.getD_some] at hc
  obtain ⟨field, table, hf, -, hon⟩ := (RangeQuery.compile_eq_ok_iff hne).mp hc
  obtain ⟨tokens, params, sql, -, -, hr⟩ := RangeQuery.compileOn_eq_ok_iff.mp hon
  refine ⟨field, _, hf, by rw [hr]; rfl, ?_⟩
  -- the shape of the rows says what the descriptor asks for
  simp only [RangeQuery.shapeOn, RangeQuery.wants_eq_decide, decide_eq_true_iff, Option.getD_some]
  constructor
  · rintro hcomplete ⟨hh, hname⟩
    refine RangeAnswer.not_isComplete_of_hidesBound ⟨by simpa using hh, ?_⟩ hcomplete
    simpa using hname
  · intro hname
    refine RangeAnswer.isComplete_of_not_hidesBound fun hhides => hname ?_
    simpa [RangeAnswer.HidesBound] using hhides

end QueryBatch
