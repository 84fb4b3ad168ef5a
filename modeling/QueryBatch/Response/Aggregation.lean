import QueryBatch.Execution.Basic
import QueryBatch.Response.Count
import QueryBatch.Sql.Column

/-!
# Reshaped aggregations

The rows of term and range statements become buckets and bounds.

* `Bucket`: a key and a count.
* `termBuckets`: one bucket for each row of a term statement.
* `rangeAggregations`: bounds and buckets of a range statement.
-/

namespace QueryBatch

/-- **Buckets.** -/
structure Bucket where
  key : Json
  count : Nat
deriving DecidableEq

def Bucket.encode (b : Bucket) : Json := .object [("doc_count", .ofNat b.count), ("key", b.key)]

/-- The value of a column, or null. -/
def Row.valueOf (row : Row) (column : String) : Json := (Keyed.get? column row).getD .null

/-- The bucket of a row. -/
def Row.bucket (row : Row) (key count : String) : Bucket :=
  ⟨row.valueOf key, Count.parse (Keyed.get? count row)⟩

/-- **The buckets of a term statement**, in the order of its rows. -/
def termBuckets (dataField : String) (rows : List Row) : List Bucket :=
  rows.map fun row => Row.bucket row dataField (Column.termCount dataField)

def encodeBuckets (buckets : List Bucket) : Json :=
  .object [("buckets", .array (buckets.map Bucket.encode))]

/-- A bound, which stands in the first row if there is one. -/
def boundOf (column : String) (rows : List Row) : Json :=
  .object [("value", (rows.head?.map fun row => Row.valueOf row column).getD .null)]

/-- Puts a bound under a name if its column was selected. -/
def insertBound (name : String) (column : Option String) (rows : List Row) (into : Keyed Json) :
    Keyed Json :=
  match column with
  | some c => into.insert name (boundOf c rows)
  | none => into

/-- **The aggregations of a range statement**: the selected bounds, and under the name of the data
column the buckets, if there is a histogram. -/
def rangeAggregations (dataField : String) (minField maxField : Option String) (histogram : Bool)
    (rows : List Row) : Keyed Json :=
  let bounds := insertBound "max" maxField rows (insertBound "min" minField rows [])
  if histogram then
    bounds.insert dataField
      (encodeBuckets (rows.map fun row => Row.bucket row Column.bucketKey Column.bucketCount))
  else bounds

end QueryBatch
