import QueryBatch.Query.Identifier
import QueryBatch.Query.Value

/-!
# Resolved queries

A query is a descriptor with every default filled in and every part checked. A statement written
by hand stands for itself, whatever else the descriptor says; otherwise the kind of the descriptor
decides which parts count.

* `Query`: the four kinds of resolved queries.
* `Descriptor.resolve`: the query of a descriptor, or the first error in it.
-/

namespace QueryBatch

/-- A statement written by hand, with what is needed to reshape its rows. -/
structure WrittenQuery where
  statement : String
  kind : Kind
  dataField : Option String
deriving DecidableEq

/-- An order by the distance to a vector. -/
structure VectorOrder where
  field : String
  vector : List Binary64
deriving DecidableEq, Inhabited

structure SearchQuery where
  tables : List String
  includeFields : List String
  dataFields : List String
  value : Option Match
  connective : Connective
  sortField : Option String
  sortBy : SortOrder
  vector : Option VectorOrder
  condition : Option String
  size : Nat
  offset : Option Nat
deriving DecidableEq

/-- A count of the rows for each value of a column. -/
structure TermQuery where
  tables : List String
  dataFields : List String
  condition : Option String
  aggregationSize : Option Nat
deriving DecidableEq

/-- Bounds and a histogram of a column. -/
structure RangeQuery where
  tables : List String
  dataFields : List String
  value : Option Range
  aggregations : List Aggregation
  interval : Option Binary64
  condition : Option String
deriving DecidableEq

/-- **Queries.** -/
inductive Query
  | written (query : WrittenQuery)
  | search (query : SearchQuery)
  | term (query : TermQuery)
  | range (query : RangeQuery)
deriving DecidableEq

/-- A query under the name that it has in the answer. -/
structure NamedQuery where
  name : String
  query : Query
deriving DecidableEq

namespace Descriptor

/-- The relations, of which there must be one, and all of which must be safe names. -/
def resolveTables (d : Descriptor) : Except QueryError (List String) := do
  if d.tableNames.isEmpty then throw (.missingField "table")
  Identifier.checkAll d.tableNames
  pure d.tableNames

/-- The statement written by hand, unless it is blank. -/
def statement? (d : Descriptor) : Option String :=
  (d.handWritten.bind HandWritten.query).filter fun s => !s.toList.all Text.isBlank

/-- The columns to give, all of them if none is named. -/
def includedFields (d : Descriptor) : List String :=
  match d.includeFields with
  | none => ["*"]
  | some l => if l.isEmpty then ["*"] else l

/-- The vector of a search: its own, or else the one fetched for it. -/
def effectiveVector (d : Descriptor) (embedded : Option (List Binary64)) :
    Option (List Binary64) :=
  d.vector.or embedded

/-- The order by distance, which needs a column and a vector with at least one component. -/
def resolveVector (d : Descriptor) (embedded : Option (List Binary64)) :
    Except QueryError (Option VectorOrder) :=
  match d.vectorField, d.effectiveVector embedded with
  | some field, some (x :: r) => do
    Identifier.check field
    pure (some ⟨field, x :: r⟩)
  | _, _ => .ok none

/-- The direction of the order, ascending if none is given. -/
def resolveOrder (d : Descriptor) : Except QueryError SortOrder :=
  match d.sortBy with
  | none => .ok .asc
  | some word => SortOrder.parse word

/-- The search of a descriptor whose relations and columns are checked. -/
def resolveSearch (d : Descriptor) (tables : List String) (embedded : Option (List Binary64))
    (defaultSize : Nat) : Except QueryError SearchQuery := do
  Identifier.checkAll d.includedFields
  Identifier.checkOptional d.sortField
  let sortBy ← d.resolveOrder
  let vector ← d.resolveVector embedded
  let value ← Match.parse d.value
  pure {
    tables, value, sortBy, vector
    includeFields := d.includedFields
    dataFields := d.fieldNames
    connective := d.connective.getD .or
    sortField := d.sortField
    condition := d.condition
    size := d.size.getD defaultSize
    offset := d.offset }

/-- The term query of a descriptor. Its value serves other queries, so only the shape of it is
checked. -/
def resolveTerm (d : Descriptor) (tables : List String) : Except QueryError TermQuery := do
  let _ ← Match.parse d.value
  pure {
    tables
    dataFields := d.fieldNames
    condition := d.condition
    aggregationSize := d.aggregationSize }

/-- The range query of a descriptor. -/
def resolveRange (d : Descriptor) (tables : List String) : Except QueryError RangeQuery := do
  let value ← Range.parse d.value
  pure {
    tables, value
    dataFields := d.fieldNames
    aggregations := d.aggregations.getD []
    interval := d.interval
    condition := d.condition }

/-- The query of a descriptor that has no statement written by hand. -/
def resolveKind (d : Descriptor) (tables : List String) (embedded : Option (List Binary64))
    (defaultSize : Nat) : Except QueryError Query :=
  match d.kindOrDefault with
  | .search => (d.resolveSearch tables embedded defaultSize).map .search
  | .suggestion => (d.resolveSearch tables embedded defaultSize).map .search
  | .term => (d.resolveTerm tables).map .term
  | .range => (d.resolveRange tables).map .range

/-- **Resolution**: the query of a descriptor. `embedded` is the vector fetched for it,
`defaultSize` the page size of a search that names none. -/
def resolve (d : Descriptor) (embedded : Option (List Binary64)) (defaultSize : Nat) :
    Except QueryError NamedQuery := do
  let tables ← d.resolveTables
  Identifier.checkAll d.fieldNames
  let query ← match d.statement? with
    | some statement => pure (.written ⟨statement, d.kindOrDefault, d.fieldNames.head?⟩)
    | none => d.resolveKind tables embedded defaultSize
  pure ⟨d.name, query⟩

end Descriptor

/-- The page size of a search that names none. -/
def defaultPageSize : Nat := 10

end QueryBatch
