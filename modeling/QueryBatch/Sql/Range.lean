import QueryBatch.Sql.Column
import QueryBatch.Sql.Condition
import QueryBatch.Sql.Statement

/-!
# Statements of range queries

A range query asks for the least and the greatest value of a column, for a histogram of it, or for
both at once. In the last case the bounds are a relation of their own that is joined to every
bucket. A bucket is named by its lower edge, and a value on an edge belongs to the bucket above
it.

* `BoundsStatement.build`: the statement for the bounds.
* `histogramStatement`: the statement for the buckets, with or without the bounds.
* `RangeQuery.compile`: the statement of a range query.
-/

namespace QueryBatch

def quotedTable (table : String) : String := "\"" ++ table ++ "\""

/-- A condition behind its keyword. -/
def whereClause : Option String → String
  | none => ""
  | some c => " WHERE " ++ c

/-- **A statement for bounds**, with the names of the columns that it selects. -/
structure BoundsStatement where
  minField : Option String
  maxField : Option String
  sql : String
deriving DecidableEq

namespace BoundsStatement

/-- The names of the selected columns. -/
def columns (b : BoundsStatement) : List String := b.minField.toList ++ b.maxField.toList

/-- The statement for the wanted bounds, of which there must be one. -/
def build (field table : String) (condition : Option String) (wantsMin wantsMax : Bool) :
    Except QueryError BoundsStatement :=
  if !wantsMin && !wantsMax then .error (.invalidArgument .noBound)
  else
    let selected :=
      (if wantsMin then ["MIN(" ++ field ++ ") AS " ++ Column.least] else []) ++
      (if wantsMax then ["MAX(" ++ field ++ ") AS " ++ Column.greatest] else [])
    .ok {
      minField := if wantsMin then some Column.least else none
      maxField := if wantsMax then some Column.greatest else none
      sql := "SELECT " ++ Text.joined ", " selected ++ " FROM " ++ quotedTable table ++
        whereClause condition }

end BoundsStatement

/-- A bucket width. Every width but one has a point or an exponent, so that whole columns are not
divided as integers. -/
def widthLiteral (interval : Binary64) : String :=
  if interval = .one then "1" else Layout.width.write interval

/-- The number of the bucket of a value. -/
def bucketNumber (field : String) (interval : Binary64) : String :=
  "FLOOR(" ++ field ++ " / " ++ widthLiteral interval ++ ")"

/-- **The statement for a histogram.** -/
def histogramStatement (field table : String) (interval : Binary64) (condition : Option String)
    (bounds : Option BoundsStatement) : String :=
  let bucket := bucketNumber field interval
  let joinedColumns := ((bounds.map BoundsStatement.columns).getD []).map fun c => "o." ++ c
  let selected :=
    [bucket ++ " * " ++ widthLiteral interval ++ " AS " ++ Column.bucketKey,
      "COUNT(*) AS " ++ Column.bucketCount] ++ joinedColumns
  let opening := match bounds with
    | some b => "WITH " ++ Column.boundsRelation ++ " AS (" ++ b.sql ++ ") "
    | none => ""
  let relations := quotedTable table ++
    (if bounds.isSome then ", " ++ Column.boundsRelation ++ " o" else "")
  opening ++ "SELECT " ++ Text.joined ", " selected ++ " FROM " ++ relations ++
    whereClause condition ++ " GROUP BY " ++ Text.joined ", " (bucket :: joinedColumns) ++
    " ORDER BY " ++ Column.bucketKey

namespace RangeQuery

/-- An aggregation is asked for. -/
def wants (q : RangeQuery) (a : Aggregation) : Bool := q.aggregations.contains a

/-- A bucket width that is a number above zero. -/
def width? (q : RangeQuery) : Option Binary64 :=
  q.interval.filter fun i => i.isFinite && i.isPositive

/-- The statement for the bounds, if any of them is asked for. -/
def bounds? (q : RangeQuery) (field table : String) (condition : Option String) :
    Except QueryError (Option BoundsStatement) :=
  if q.wants .min || q.wants .max then
    (BoundsStatement.build field table condition (q.wants .min) (q.wants .max)).map some
  else .ok none

def sql (q : RangeQuery) (field table : String) (condition : Option String)
    (bounds : Option BoundsStatement) : Except QueryError String :=
  if q.wants .histogram then
    match q.width? with
    | none => .error (.invalidArgument .noInterval)
    | some width => .ok (histogramStatement field table width condition bounds)
  else .ok ((bounds.map BoundsStatement.sql).getD "")

/-- The statement on a column and a relation. -/
def compileOn (q : RangeQuery) (field table : String) : Except QueryError Compiled := do
  let (tokens, params) ← Filter.tokens (q.value.map .range) [field] .or Params.empty
  let condition := mergeConditions (conditionOf tokens) q.condition
  let bounds ← q.bounds? field table condition
  let sql ← q.sql field table condition bounds
  pure {
    statement := some ⟨sql, params.bound⟩
    shape := .range {
      dataField := some field
      minField := bounds.bind BoundsStatement.minField
      maxField := bounds.bind BoundsStatement.maxField
      histogram := q.wants .histogram
      isEmpty := false } }

/-- **The statement of a range query**; none if it asks for nothing. -/
def compile (q : RangeQuery) : Except QueryError Compiled :=
  if q.aggregations.isEmpty then .ok ⟨none, .range ⟨none, none, none, false, true⟩⟩
  else
    match q.dataFields, q.tables with
    | [], _ => .error (.missingField "dataField")
    | _ :: _, [] => .error (.missingField "table")
    | field :: _, table :: _ => q.compileOn field table

end RangeQuery

end QueryBatch
