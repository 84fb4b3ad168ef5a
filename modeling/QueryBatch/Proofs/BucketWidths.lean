import QueryBatch.Proofs.Admission
import QueryBatch.Proofs.ShortestDecimals

/-! # Widths of buckets

A row is in the bucket that is the whole part of a quotient. The quotient of two integers would be
cut towards zero before that, and values below zero would come into the bucket above their own. So a
width is never written as an integer, except that one is, where nothing is cut. Both layouts of a
width keep to that, the one with a point and the other with an exponent, and since a width is read
back as itself it is not written as zero either.

* `Numeral.Literal.exists_ne_zero`: literals that do not stand for zero have a digit other than it.
* `IsWidthLiteral`, `isWidthLiteral_widthLiteral`: **what a width is written as**.
* `IsBucketed`: rows are grouped by the bucket that stands in front of them.
* `Buckets.isBucketed_histogramStatement`: that is so with and without bounds.
* `RangeQuery.compile_isBucketed`: **the statement for the buckets of a width**.
-/

namespace QueryBatch

/-! ### Literals -/

namespace Numeral.Literal

variable (l : Literal)

theorem exists_ne_zero (h : l.decimal.significand ≠ 0) : ∃ c ∈ l.digits, c ≠ '0' := by
  by_contra! hall
  refine h ?_
  have hzeros : l.digits = List.replicate l.digits.length '0' := List.eq_replicate_of_mem hall
  rw [decimal, hzeros]
  exact value_zeros _

theorem point_mem_chars (h : l.fraction ≠ []) : '.' ∈ l.chars := by
  simp [chars, fractionChars, h]

theorem letter_mem_chars (h : l.exponent ≠ none) : 'e' ∈ l.chars := by
  obtain ⟨e, he⟩ := Option.ne_none_iff_exists'.mp h
  simp [chars, exponentChars, he]

end Numeral.Literal

/-- **The literal of a width**: it is read as the width and has a digit other than zero, and unless
the width is one it has a point or the letter of an exponent. -/
structure IsWidthLiteral (width : Binary64) (literal : String) : Prop where
  eq_one_iff : literal = "1" ↔ width = .one
  exists_literal : ∃ l : Numeral.Literal, literal = String.ofList l.chars ∧ ∃ c ∈ l.digits, c ≠ '0'
  mem_of_ne_one : width ≠ .one → '.' ∈ literal.toList ∨ 'e' ∈ literal.toList
  real?_eq : Numeral.real? literal.toList = some width

theorem isWidthLiteral_one : IsWidthLiteral .one "1" where
  eq_one_iff := iff_of_true rfl rfl
  exists_literal := ⟨.pointed ['1'] 1 none false (by decide) one_pos, by decide, '1', by decide,
    by decide⟩
  mem_of_ne_one h := absurd rfl h
  real?_eq := Numeral.real?_of_isDigits (by decide : Numeral.isDigits ['1'] = true)

/-- **What a width is written as.** -/
theorem isWidthLiteral_widthLiteral {width : Binary64} (hf : width.isFinite = true)
    (hp : width.isPositive = true) : IsWidthLiteral width (widthLiteral width) := by
  by_cases hone : width = .one
  · rw [hone, widthLiteral, if_pos rfl]
    exact isWidthLiteral_one
  cases width with
  | nan => cases hf
  | real s m =>
    obtain ⟨rfl, hm⟩ : s = false ∧ m.code ≠ 0 := by simpa [Binary64.isPositive] using hp
    have hfinite : m.isFinite = true := hf
    obtain ⟨l, hchars, hback, hmark⟩ := Layout.width.exists_literal m
    have hwritten : widthLiteral (.real false m) = Layout.width.write (.real false m) := if_neg hone
    have hliteral : Layout.width.write (.real false m) = String.ofList l.chars := by
      rw [Layout.write, if_pos hfinite, hchars]
      rfl
    have hmem : '.' ∈ l.chars ∨ 'e' ∈ l.chars :=
      (hmark rfl).imp l.point_mem_chars l.letter_mem_chars
    have hne : l.chars ≠ ['1'] := by
      intro h
      rw [h] at hmem
      exact absurd hmem (by decide)
    have hsignificand : l.decimal.significand ≠ 0 := by
      intro hzero
      have hmagnitude := (Decimal.readsBack_iff hfinite).mp hback
      rw [Decimal.toMagnitude, if_pos hzero] at hmagnitude
      exact hm (congrArg Magnitude.code hmagnitude).symm
    rw [hwritten]
    refine ⟨iff_of_false (fun h => hne ?_) hone, ⟨l, hliteral, l.exists_ne_zero hsignificand⟩,
      fun _ => ?_, Layout.width.real?_write hf⟩
    · rw [← String.toList_ofList (l := l.chars), ← hliteral, h]
      rfl
    · rwa [hliteral, String.toList_ofList]

example : widthLiteral (.real false ⟨1, by decide⟩) = "5e-324" := by decide +kernel

/-! ### Statements -/

/-- **The statement of a histogram**: the rows are grouped by the bucket that is multiplied in front
of them, character for character, and by the columns of the bounds, whose relation may come first.
-/
def IsBucketed (field : String) (width : Binary64) (columns sql : String) : Prop :=
  ∃ literal bucket opening source, IsWidthLiteral width literal ∧
    bucket = "FLOOR(" ++ field ++ " / " ++ literal ++ ")" ∧
    (opening = "" ∨
      ∃ bounds, opening = "WITH " ++ Column.boundsRelation ++ " AS (" ++ bounds ++ ") ") ∧
    sql = opening ++ "SELECT " ++ bucket ++ " * " ++ literal ++ " AS " ++ Column.bucketKey ++
      ", COUNT(*) AS " ++ Column.bucketCount ++ columns ++ " FROM " ++ source ++
      " GROUP BY " ++ bucket ++ columns ++ " ORDER BY " ++ Column.bucketKey

namespace Buckets

theorem exists_histogramStatement_eq (b : Buckets) (bounds : Option BoundsStatement) :
    ∃ opening relation,
      (opening = "" ∨
        ∃ sql, opening = "WITH " ++ Column.boundsRelation ++ " AS (" ++ sql ++ ") ") ∧
      histogramStatement b.field b.table b.width b.condition bounds =
        opening ++
          b.sql (Text.led ", o." ((bounds.map BoundsStatement.columns).getD [])) relation := by
  cases bounds with
  | none =>
    refine ⟨"", "", .inl rfl, ?_⟩
    rw [b.histogramStatement_none, String.empty_append]
    rfl
  | some bounds => exact ⟨_, _, .inr ⟨bounds.sql, rfl⟩, b.histogramStatement_some bounds⟩

theorem isBucketed_histogramStatement (b : Buckets) (hf : b.width.isFinite = true)
    (hp : b.width.isPositive = true) (bounds : Option BoundsStatement) :
    IsBucketed b.field b.width (Text.led ", o." ((bounds.map BoundsStatement.columns).getD []))
      (histogramStatement b.field b.table b.width b.condition bounds) := by
  obtain ⟨opening, relation, hopening, hsql⟩ := b.exists_histogramStatement_eq bounds
  have hbucket : bucketNumber b.field b.width =
      "FLOOR(" ++ b.field ++ " / " ++ widthLiteral b.width ++ ")" := by rw [bucketNumber]
  refine ⟨widthLiteral b.width, bucketNumber b.field b.width, opening,
    quotedTable b.table ++ relation ++ whereClause b.condition,
    isWidthLiteral_widthLiteral hf hp, hbucket, hopening, ?_⟩
  rw [hsql]
  unfold sql
  simp only [String.append_assoc]

end Buckets

namespace RangeQuery

variable {q : RangeQuery} {c : Compiled}

theorem columns_boundsOn (q : RangeQuery) (field table : String) (condition : Option String) :
    ((q.boundsOn field table condition).map BoundsStatement.columns).getD [] =
      (q.shapeOn field).minField.toList ++ (q.shapeOn field).maxField.toList := by
  cases h : q.wants .min <;> cases h' : q.wants .max <;>
    simp [boundsOn, wantsBounds, boundsAround, shapeOn, BoundsStatement.columns, h, h']

theorem compile_histogram (h : q.compile = .ok c) (hh : .histogram ∈ q.aggregations) :
    ∃ b : Buckets, q.dataFields.head? = some b.field ∧ q.width? = some b.width ∧ ∃ params,
      c = ⟨some ⟨histogramStatement b.field b.table b.width b.condition
        (q.boundsOn b.field b.table b.condition), params⟩, .range (q.shapeOn b.field)⟩ := by
  obtain ⟨field, table, hf, -, hon⟩ := (compile_eq_ok_iff (List.ne_nil_of_mem hh)).mp h
  obtain ⟨tokens, params, sql, -, hsql, rfl⟩ := compileOn_eq_ok_iff.mp hon
  obtain ⟨width, hw, rfl⟩ := (sql_eq_ok_iff_of_wants (wants_eq_true_iff.mpr hh)).mp hsql
  exact ⟨⟨field, table, width, mergeConditions (conditionOf tokens) q.condition⟩, hf, hw,
    params.bound, rfl⟩

/-- **The statement for the buckets of a width.** A query for buckets compiles if and only if its
width is a number above zero. The width stands in the statement as a literal that is an integer for
the width one only, and never zero, and the rows are grouped by the very bucket that is selected. -/
theorem compile_isBucketed (q : RangeQuery) (hh : .histogram ∈ q.aggregations)
    (hf : q.dataFields ≠ []) (ht : q.tables ≠ []) :
    ((∃ c, q.compile = .ok c) ↔
      ∃ width ∈ q.interval, width.isFinite = true ∧ width.isPositive = true) ∧
    ∀ c, q.compile = .ok c → ∃ field width sql params,
      q.dataFields.head? = some field ∧ q.interval = some width ∧
      c = ⟨some ⟨sql, params⟩, .range (q.shapeOn field)⟩ ∧
      IsBucketed field width
        (Text.led ", o." ((q.shapeOn field).minField.toList ++ (q.shapeOn field).maxField.toList))
        sql := by
  constructor
  · have hiff := exists_compile_iff ht
    rw [hiff]
    exact ⟨fun h => h.2 hh, fun h => ⟨fun _ => hf, fun _ => h⟩⟩
  · intro c hc
    obtain ⟨b, hfield, hwidth, params, rfl⟩ := compile_histogram hc hh
    obtain ⟨hinterval, hnumber⟩ := Option.filter_eq_some_iff.mp hwidth
    obtain ⟨hfinite, hpositive⟩ := Bool.and_eq_true_iff.mp hnumber
    have hbucketed := b.isBucketed_histogramStatement hfinite hpositive
      (q.boundsOn b.field b.table b.condition)
    rw [columns_boundsOn] at hbucketed
    exact ⟨b.field, b.width, _, params, hfield, hinterval, rfl, hbucketed⟩

/-- Stars by distance, with the least one, in buckets so wide that no point is written. -/
def distances : RangeQuery where
  tables := ["stars"]
  dataFields := ["distance"]
  value := none
  aggregations := [.min, .histogram]
  interval := some (.ofNat (10 ^ 16))
  condition := none

def distancesSql : String :=
  "WITH OverallStats AS (SELECT MIN(distance) AS rs__overall_min_year FROM \"stars\") " ++
    "SELECT FLOOR(distance / 1e16) * 1e16 AS rs__key, COUNT(*) AS rs__doc_count, " ++
    "o.rs__overall_min_year FROM \"stars\", OverallStats o " ++
    "GROUP BY FLOOR(distance / 1e16), o.rs__overall_min_year ORDER BY rs__key"

/-- A width whose literal has an exponent and no point. -/
theorem compile_isBucketed_distances :
    .histogram ∈ distances.aggregations ∧ distances.dataFields ≠ [] ∧ distances.tables ≠ [] ∧
    distances.compile = .ok ⟨some ⟨distancesSql, []⟩, .range (distances.shapeOn "distance")⟩ ∧
    (∃ width ∈ distances.interval, width.isFinite = true ∧ width.isPositive = true) ∧
    IsBucketed "distance" (.ofNat (10 ^ 16)) ", o.rs__overall_min_year" distancesSql := by
  have h : distances.compile =
      .ok ⟨some ⟨distancesSql, []⟩, .range (distances.shapeOn "distance")⟩ := by decide +kernel
  have hh : .histogram ∈ distances.aggregations := by decide
  have hf : distances.dataFields ≠ [] := List.cons_ne_nil _ _
  have ht : distances.tables ≠ [] := List.cons_ne_nil _ _
  obtain ⟨hiff, hall⟩ := compile_isBucketed distances hh hf ht
  obtain ⟨field, width, sql, params, hfield, hwidth, hc, hbucketed⟩ := hall _ h
  cases hfield
  cases hwidth
  cases hc
  exact ⟨hh, hf, ht, h, hiff.mp ⟨_, h⟩, hbucketed⟩

end RangeQuery

end QueryBatch
