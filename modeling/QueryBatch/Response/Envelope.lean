import QueryBatch.Descriptor.Batch
import QueryBatch.Response.Aggregation

/-!
# Envelopes

The answer to a batch is an object with an entry for each query under its name, and an entry for
the batch as a whole. An entry has the form of a search engine's answer; a query that failed has
an entry that says so.

* `Response.entry`: the entry of a settled query.
* `errorEntry`: the entry of a query that failed.
* `Envelope.pushError`, `Envelope.pushResponse`, `Envelope.finish`: an answer, entry by entry.
-/

namespace QueryBatch

/-- A total and a list of hits. -/
def encodeHits (total : Nat) (hits : List Json) : Json :=
  .object [("hits", .array hits), ("total", .object [("value", .ofNat total)])]

/-- One hit: a row without the column for the number of all rows. -/
def encodeHit (row : Row) : Json :=
  .object [("_score", .ofNat 1), ("_source", .object (Keyed.erase Column.totalCount row))]

/-- The number of all matching rows, which the first row says; if it does not, the number of rows.
-/
def totalOf (rows : List Row) : Nat :=
  match rows.head?.bind (Keyed.get? Column.totalCount) with
  | some count => Count.parse (some count)
  | none => rows.length

def searchEntry (took : Json) (rows : List Row) : Json :=
  .object [("hits", encodeHits (totalOf rows) (rows.map encodeHit)), ("took", took)]

def aggregationEntry (took : Json) (aggregations : Keyed Json) : Json :=
  .object [("aggregations", .object aggregations), ("hits", encodeHits 0 []), ("took", took)]

def termEntry (took : Json) (dataField : String) (rows : List Row) : Json :=
  aggregationEntry took [(dataField, encodeBuckets (termBuckets dataField rows))]

/-- A column of the first row. -/
def selectedColumn? (column : String) (rows : List Row) : Option String :=
  if (rows.head?.map (Keyed.contains column)).getD false then some column else none

/-- The entry of a range statement written by hand, which says by its first row what it selects. -/
def writtenRangeEntry (took : Json) (dataField : Option String) (rows : List Row) : Json :=
  aggregationEntry took
    (rangeAggregations (dataField.getD "") (selectedColumn? Column.least rows)
      (selectedColumn? Column.greatest rows)
      (dataField.isSome && (selectedColumn? Column.bucketKey rows).isSome) rows)

/-- The entry of some rows by their shape. -/
def Shape.entry (took : Json) (rows : List Row) : Shape → Json
  | .search => searchEntry took rows
  | .written .term (some field) => termEntry took field rows
  | .written .range field => writtenRangeEntry took field rows
  | .written _ _ => searchEntry took rows
  | .term field => termEntry took field rows
  | .range s =>
    if s.isEmpty then .null
    else
      aggregationEntry took
        (rangeAggregations (s.dataField.getD "") s.minField s.maxField s.histogram rows)

/-- A time as it stands in an answer, in hundredths. -/
def encodeTook (took : Binary64) : Json := .ofBinary64 took.hundredths

/-- **The entry of a query that failed.** -/
def errorEntry (name message : String) (status : Nat) (took : Binary64) : Json :=
  .object [("error", .string message), ("hits", .null), ("id", .string name),
    ("status", .ofNat status), ("took", encodeTook took)]

/-- The status of a statement that failed. -/
def executionFailureStatus : Nat := 500

/-- **The entry of a settled query.** -/
def Response.entry (r : Response) : Json :=
  match r.result with
  | .ok rows => r.shape.entry (encodeTook r.took) rows
  | .error e => errorEntry r.name e.message executionFailureStatus r.took

/-- **Envelopes**: answers in the making. -/
abbrev Envelope := Keyed Json

namespace Envelope

/-- Adds the entry of a query that failed. -/
def pushError (e : Envelope) (name message : String) (status : Nat) (took : Binary64) : Envelope :=
  e.insert name (errorEntry name message status took)

/-- Adds the entry of a settled query. -/
def pushResponse (e : Envelope) (r : Response) : Envelope := e.insert r.name r.entry

/-- **The answer**: the entries, and the time of the batch. -/
def finish (e : Envelope) (took : Binary64) : Json :=
  .object (e.insert Batch.settingsKey (.object [("took", encodeTook took)]))

end Envelope

end QueryBatch
